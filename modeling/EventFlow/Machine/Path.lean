/-!
# Data paths

A state reads its input from a place in the data that reaches it: the whole of it, the payload of
the event that started the machine, the result of a function that was called before, or the
description of an error. While states are laid out one after the other, a `PathTracker` follows
where the next one reads, and remembers for each open fan-out where its list was.
-/

namespace EventFlow.Machine

/-- Where a state reads its input from, or writes an error to. -/
inductive Path where
  /-- All of the input. -/
  | root
  /-- The payload of the event. -/
  | detail
  /-- The result of a function. -/
  | payload
  /-- The description of an error. -/
  | error
  deriving DecidableEq, Repr, Inhabited

/-- The notation of a path. -/
def Path.text : Path → String
  | root => "$"
  | detail => "$.detail"
  | payload => "$.Payload"
  | error => "$.error"

/-- Where the next state reads its input from, and where the lists of the open fan-outs were,
innermost first. -/
structure PathTracker where
  current : Path := .root
  scopes : List Path := []
  deriving DecidableEq, Repr, Inhabited

namespace PathTracker

/-- The source was entered: the payload of the event comes next. -/
def enterEvent (t : PathTracker) : PathTracker :=
  { t with current := .detail }

/-- A function was called: its result comes next. -/
def enterResult (t : PathTracker) : PathTracker :=
  { t with current := .payload }

/-- Opens a fan-out over the list at the current path; inside, each element is the whole input. -/
def pushScope (t : PathTracker) : PathTracker :=
  { current := .root, scopes := t.current :: t.scopes }

/-- Closes the innermost fan-out, which left a result. -/
def popScope (t : PathTracker) : PathTracker :=
  { current := .payload, scopes := t.scopes.tail }

/-- Closes the innermost fan-out, which left no trace: its list stays where it was. -/
def collapseScope (t : PathTracker) : PathTracker :=
  match t.scopes with
  | [] => t
  | items :: scopes => { current := items, scopes }

/-- Where the list of the innermost fan-out was. -/
def items? (t : PathTracker) : Option Path :=
  t.scopes.head?

end PathTracker

end EventFlow.Machine

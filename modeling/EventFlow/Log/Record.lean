import EventFlow.Text.Pieces
import EventFlow.Text.Quoted

/-!
# Log records

A record is what a part of the library has to tell while it works: a level, the part that speaks,
a message and named values. Whether a record is kept, and how it is written, is decided elsewhere.
-/

namespace EventFlow.Log

/-- The levels, from the most to the least important. -/
inductive Level where
  | error
  | warn
  | info
  | debug
  | trace
  deriving DecidableEq, Repr

namespace Level

/-- The name of a level. -/
def name : Level → String
  | error => "ERROR"
  | warn => "WARN"
  | info => "INFO"
  | debug => "DEBUG"
  | trace => "TRACE"

/-- How much a level lets through: everything of this number or less. -/
def verbosity : Level → Nat
  | error => 1
  | warn => 2
  | info => 3
  | debug => 4
  | trace => 5

end Level

/-- A value in a record. -/
inductive Value where
  /-- A text that stands for itself. -/
  | shown (text : String)
  /-- A name, which is quoted where values are not. -/
  | name (text : String)
  | number (n : Nat)
  deriving DecidableEq, Repr

/-- A list of names between brackets. -/
def Value.names (names : List String) : Value :=
  .shown ("[" ++ Text.joinWith ", " (names.map Text.quoted) ++ "]")

/-- Something told while working. -/
structure Record where
  level : Level
  /-- The part of the program that speaks. -/
  target : String
  message : String
  fields : List (String × Value) := []
  deriving DecidableEq, Repr

end EventFlow.Log

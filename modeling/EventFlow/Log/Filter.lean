import EventFlow.Log.Record
import EventFlow.Text.Blank

/-!
# Log filters

A filter is a list of directives separated by commas. A directive names a level, a target, or both
with an equals sign between them; brackets behind the target may name a span and, in braces, fields
that a record must have. The most specific directive that fits a record decides whether the record
is kept: the one with the longest target, then the one with the most fields, then the last one.

The characters of a directive are counted from its first one that is not blank, but its parts are
cut out of the whole text, so a directive with blanks in front names a target that no record has.
-/

namespace EventFlow.Log

/-- A condition under which records of a level or a more important one are kept. -/
structure Directive where
  /-- The greatest verbosity that is kept. -/
  verbosity : Nat := 5
  target : Option String := none
  /-- A span in which a record must arise. -/
  span : Option String := none
  /-- The fields that a record must have, with whether a value is asked for. -/
  fields : List (String × Bool) := []
  deriving DecidableEq, Repr, Inhabited

/-! ### Levels -/

/-- The number of some decimal digits, perhaps with a plus sign in front, below `2 ^ 64`. -/
def number? (s : String) : Option Nat :=
  let digits := match s.toList with
    | '+' :: cs => cs
    | cs => cs
  if digits.isEmpty || !digits.all Char.isDigit then none
  else
    let n := digits.foldl (fun n c => 10 * n + (c.toNat - '0'.toNat)) 0
    if n < Nat.pow 2 64 then some n else none

/-- The verbosity that a number or a word stands for, whatever its case. -/
def verbosity? (s : String) : Option Nat :=
  match number? s with
  | some n => if n ≤ 5 then some n else none
  | none =>
    match Text.lowerAscii s with
    | "" => some 1
    | "off" => some 0
    | "error" => some 1
    | "warn" => some 2
    | "info" => some 3
    | "debug" => some 4
    | "trace" => some 5
    | _ => none

/-! ### Reading directives -/

namespace Directive

/-- Where the reading of a directive is; the numbers say where the current part starts. -/
inductive Place where
  | start
  | levelOrTarget (start : Nat)
  | span (start : Nat)
  | field (start : Nat)
  | fields
  | target
  | level (start : Nat)
  | complete

/-- The characters between two places. -/
def slice (raw : List Char) (start stop : Nat) : String :=
  String.ofList ((raw.drop start).take (stop - start))

/-- The field that a text asks for. -/
def field (text : String) : String × Bool :=
  (String.ofList (text.toList.takeWhile (· != '=')), text.toList.contains '=')

/-- A directive with its level, which is the most verbose one when none is written. -/
def withLevel? (d : Directive) (text : String) : Option Directive :=
  if text == "" then some { d with verbosity := 5 }
  else (verbosity? text).map fun v => { d with verbosity := v }

/-- A directive with a text that is a level or else a target. -/
def withLevelOrTarget (d : Directive) (text : String) : Directive :=
  match verbosity? text with
  | some v => { d with verbosity := v }
  | none => { d with verbosity := 5, target := some text }

/-- The directive and the place after a character at a position. -/
def step (raw : List Char) (d : Directive) (place : Place) (position : Nat) (c : Char) :
    Option (Directive × Place) :=
  match place with
  | .start =>
    if c == '[' then some (d, .span (position + 1))
    else if c == '-' || c == ':' || c == '_' || Text.isAlphanumeric c then
      some (d, .levelOrTarget position)
    else none
  | .levelOrTarget start =>
    if c == '=' then
      some ({ d with target := some (slice raw start position) }, .level (position + 1))
    else if c == '[' then
      some ({ d with target := some (slice raw start position) }, .span (position + 1))
    else if c == ',' then
      some (d.withLevelOrTarget (slice raw start raw.length), .complete)
    else some (d, place)
  | .span start =>
    if c == ']' then some ({ d with span := some (slice raw start position) }, .target)
    else if c == '\x7b' then
      let name := slice raw start position
      some ({ d with span := if name == "" then none else some name }, .field (position + 1))
    else some (d, place)
  | .field start =>
    if c == '\x7d' || c == ',' then
      let text := slice raw start position
      if text == "" then none
      else
        some ({ d with fields := d.fields ++ [field text] },
          if c == ',' then .field (position + 1) else .fields)
    else some (d, place)
  | .fields => if c == ']' then some (d, .target) else none
  | .target => if c == '=' then some (d, .level (position + 1)) else none
  | .level start =>
    if c == ',' then (d.withLevel? (slice raw start position)).map (·, .complete)
    else some (d, place)
  | .complete => none

/-- Reads the characters from a position on. -/
def steps (raw : List Char) (d : Directive) (place : Place) (position : Nat) :
    List Char → Option (Directive × Place)
  | [] => some (d, place)
  | c :: cs => do
    let (d, place) ← step raw d place position c
    steps raw d place (position + 1) cs

/-- The directive of a text. -/
def parse? (text : String) : Option Directive := do
  let raw := text.toList
  let (d, place) ← steps raw {} .start 0 (Text.trimChars raw)
  match place with
  | .levelOrTarget start => return d.withLevelOrTarget (slice raw start raw.length)
  | .level start => d.withLevel? (slice raw start raw.length)
  | .target => return d
  | .complete => return d
  | _ => failure

/-! ### Matching -/

/-- Whether a directive says anything about a record. No record arises in a span. -/
def fits (d : Directive) (r : Record) : Bool :=
  d.span.isNone && d.target.all (r.target.startsWith ·)
    && d.fields.all fun f => !f.2 && (f.1 == "message" || r.fields.any (·.1 == f.1))

/-- Whether a directive is at least as specific as another one that fits the same records. -/
def atLeast (d e : Directive) : Bool :=
  let rank (d : Directive) : Nat := (d.target.map (·.utf8ByteSize + 1)).getD 0
  if rank d ≠ rank e then rank d > rank e
  else if d.fields.length ≠ e.fields.length then d.fields.length > e.fields.length
  else !decide (d.fields.map (·.1) < e.fields.map (·.1))

end Directive

/-! ### Filters -/

/-- Some directives. -/
abbrev Filter := List Directive

namespace Filter

/-- The filter of a text; one without directives keeps errors. -/
def parse? (text : String) : Option Filter := do
  let pieces := (Text.splitOnChar ',' text).filter (· != "")
  if pieces.isEmpty then return [{ verbosity := 1 }]
  pieces.mapM Directive.parse?

/-- Whether a filter keeps a record. -/
def keeps (f : Filter) (r : Record) : Bool :=
  let best := (f.filter (·.fits r)).foldl (fun best d =>
    match best with
    | none => some d
    | some e => if d.atLeast e then some d else some e) none
  best.any fun d => r.level.verbosity ≤ d.verbosity

end Filter

end EventFlow.Log

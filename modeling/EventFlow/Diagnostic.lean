import EventFlow.Document.Basic
import EventFlow.Text.Pieces

/-!
# Diagnostics

What is told about a failure: its category, a stable code, a message, where in the pipeline it
arose, hints and the cause behind it. The causes themselves are separate types, one for each part
of the library; each of them says which diagnostic it becomes.
-/

namespace EventFlow

/-- The kinds of failure. -/
inductive Category where
  /-- The steps of a pipeline do not fit together. -/
  | composition
  /-- A node stands where none of its kind may stand. -/
  | protocol
  /-- The shape of a pipeline has no state machine. -/
  | structural
  | validation
  | config
  | serialization
  | io
  | internal
  | unknown
  deriving DecidableEq, Repr

namespace Category

/-- The name of a category in diagnostics. -/
def name : Category → String
  | composition => "CompositionError"
  | protocol => "ProtocolError"
  | structural => "StructuralError"
  | validation => "ValidationError"
  | config => "ConfigError"
  | serialization => "SerializationError"
  | io => "IoError"
  | internal => "InternalError"
  | unknown => "Unknown"

/-- How serious a failure is. -/
def severity : Category → String
  | unknown => "Info"
  | _ => "Error"

/-- Whether the pipeline itself is wrong, as opposed to its surroundings. -/
def isDefinition : Category → Bool
  | composition => true
  | protocol => true
  | structural => true
  | validation => true
  | _ => false

/-- The exit status of a program that ends with such a failure: 2 when the pipeline is at fault, 3
when the configuration is, 1 otherwise. -/
def exitStatus (c : Category) : Nat :=
  if c.isDefinition then 2 else if c = config then 3 else 1

end Category

/-- What is told about a failure. -/
structure Diagnostic where
  category : Category
  code : String
  message : String
  /-- Where the failure arose, keys increasing. -/
  context : List (String × String) := []
  hints : List String := []
  /-- The message of the failure behind this one. -/
  cause : Option String := none
  deriving Repr

namespace Diagnostic

/-- The code of a failure that has none of its own, made from a random token. -/
def placeholderCode (token : String) : String :=
  "PIPE-ERR-" ++ String.ofList (token.toList.take 8)

/-- Says where the failure arose; a later value for a key replaces an earlier one. -/
def addContext (key value : String) (d : Diagnostic) : Diagnostic :=
  { d with context := Document.insertField key value d.context }

/-- Adds a hint. -/
def addHint (hint : String) (d : Diagnostic) : Diagnostic :=
  { d with hints := d.hints ++ [hint] }

/-- A failure that arose outside, told by the messages of its chain, outermost first. -/
def ofChain (chain : List String) : Diagnostic :=
  let message := chain.head?.getD ""
  { category := .internal, code := "PIPE-INT-001", message, cause := some message }

/-- A failure of reading or writing. -/
def ofInputOutput (message : String) : Diagnostic :=
  { category := .io
    code := "PIPE-IO-001"
    message
    hints := ["check that the manifest and output paths exist and are writable"]
    cause := some message }

/-- The one-line form, with the cause on a second line. -/
def display (d : Diagnostic) : String :=
  let context := match d.context with
    | [] => ""
    | fields => " (" ++ Text.joinWith ", " (fields.map fun f => f.1 ++ "=" ++ f.2) ++ ")"
  let cause := match d.cause with
    | none => ""
    | some c => "\nCaused by: " ++ c
  "[" ++ d.code ++ "] " ++ d.category.name ++ ": " ++ d.message ++ context ++ cause

/-- The report on several lines. -/
def report (d : Diagnostic) : String :=
  let lines :=
    ["[ERROR] " ++ d.code ++ ": " ++ d.message]
      ++ d.context.map (fun f => "  " ++ f.1 ++ ": " ++ f.2)
      ++ d.hints.map (fun h => "  Hint: " ++ h)
      ++ d.cause.toList.map (fun c => "  Caused by: " ++ c)
  String.join (lines.map (· ++ "\n"))

/-- The report of something that is not quite in order. -/
def warning (message : String) (context : Option String) : String :=
  String.join ((["[WARNING] " ++ message] ++ context.toList.map ("  " ++ ·)).map (· ++ "\n"))

end Diagnostic

end EventFlow

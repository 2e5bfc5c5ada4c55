import EventFlow.Document.Record
import EventFlow.Machine.Builder
import EventFlow.Manifest.Basic
import EventFlow.Text.Blank
import EventFlow.Text.Pieces

/-!
# Configuration

What is configured for the compiler and its output, and which options of the compiler follow from it
for a manifest: the configured queue for failed calls comes before the one that the manifest
declares, and must be one of its queues.
-/

namespace EventFlow

/-- The encodings of a compiled pipeline. -/
inductive OutputFormat where
  | json
  | yaml
  deriving DecidableEq, Repr, Inhabited

namespace OutputFormat

/-- The name of a format. -/
def name : OutputFormat → String
  | json => "json"
  | yaml => "yaml"

/-- The format that a word names, whatever its case and the blanks around it. -/
def ofWord? (word : String) : Option OutputFormat :=
  match Text.lowerAscii (Text.trim word) with
  | "json" => some json
  | "yaml" => some yaml
  | "yml" => some yaml
  | _ => none

/-- What is told about a word that names no format. -/
def refusal (word : String) : String :=
  "invalid output format '" ++ word ++ "'; supported values are json, yaml"

/-- The format with exactly this name. -/
def ofName? (name : String) : Option OutputFormat :=
  if name = "json" then some json else if name = "yaml" then some yaml else none

end OutputFormat

/-- The configuration. -/
structure Config where
  machineName : String := "StateMachine"
  ruleName : String := "Rule"
  /-- The queue for the input of failed calls. -/
  deadLetterQueue : Option String := none
  format : OutputFormat := .json
  deriving DecidableEq, Repr, Inhabited

/-- What is wrong with a configuration. -/
inductive ConfigError where
  | unreadable (path reason : String)
  | unparsable (path report : String)
  | unknownQueue (queue pipeline : String)
  | invalidMachineName (name : String)
  | invalidRuleName (name : String)
  | blankQueue
  deriving DecidableEq, Repr

namespace ConfigError

/-- What is told about a configuration that cannot be used. -/
def diagnostic : ConfigError → Diagnostic
  | unreadable path reason =>
    { category := .io
      code := "PIPE-IO-001"
      message := "Failed to read config file " ++ path
      cause := some reason }
  | unparsable path report =>
    wrong "PIPE-CFG-001" ("Failed to parse config file " ++ path ++ ": " ++ report)
  | unknownQueue queue pipeline =>
    wrong "PIPE-CFG-002" ("compiler.dead_letter_queue '" ++ queue
      ++ "' is not declared by pipeline '" ++ pipeline ++ "'")
  | invalidMachineName name => wrong "PIPE-CFG-003" (invalidName "state_machine_name" name)
  | invalidRuleName name => wrong "PIPE-CFG-003" (invalidName "rule_name" name)
  | blankQueue => wrong "PIPE-CFG-003" "compiler.dead_letter_queue cannot be empty"
where
  /-- A configuration that is wrong in itself. -/
  wrong (code message : String) : Diagnostic :=
    { category := .config, code, message }
  /-- A name that is not one. -/
  invalidName (field name : String) : String :=
    "compiler." ++ field ++ " '" ++ name ++ "' must be 1-80 characters of [A-Za-z0-9_-]"

end ConfigError

namespace Config

/-! ### Validity -/

/-- Names that machines and rules may have. -/
def isIdentifier (name : String) : Bool :=
  name != "" && name.utf8ByteSize ≤ 80
    && name.toList.all fun c => c.isAlphanum || c == '_' || c == '-'

/-- Checks the names and the queue. -/
def validate (c : Config) : Except ConfigError Unit := do
  if !isIdentifier c.machineName then throw (.invalidMachineName c.machineName)
  if !isIdentifier c.ruleName then throw (.invalidRuleName c.ruleName)
  if c.deadLetterQueue.any Text.isBlankText then throw .blankQueue

/-! ### Options of the compiler -/

/-- The options for a manifest. -/
def options (c : Config) (m : Manifest) : Except ConfigError Machine.Options := do
  let deadLetter ← match c.deadLetterQueue with
    | none => pure m.deadLetter?
    | some id =>
      match m.queue? id with
      | some queue => pure (some queue)
      | none => throw (.unknownQueue id m.name)
  return { machineName := c.machineName, ruleName := c.ruleName, deadLetter }

/-! ### Documents -/

/-- Reads the part about the compiler into a configuration. -/
def readCompiler (dialect : Dialect) (c : Config) (d : Document) : Option Config := do
  let field ← dialect.fields? ["state_machine_name", "rule_name", "dead_letter_queue"] 3 d
  return { c with
    machineName := ← Document.readOr c.machineName Document.asText (field "state_machine_name")
    ruleName := ← Document.readOr c.ruleName Document.asText (field "rule_name")
    deadLetterQueue := ← Document.readOr c.deadLetterQueue (Document.nullable Document.asText)
      (field "dead_letter_queue") }

/-- Reads the part about the output into a configuration. -/
def readOutput (dialect : Dialect) (c : Config) (d : Document) : Option Config := do
  let field ← dialect.fields? ["format"] 0 d
  let format (d : Document) : Option OutputFormat := (dialect.word? d).bind OutputFormat.ofName?
  return { c with format := ← Document.readOr c.format format (field "format") }

/-- The configuration of a document; what is not there has its default. -/
def ofDocument? (dialect : Dialect) (d : Document) : Option Config := do
  let field ← dialect.fields? ["compiler", "output"] 0 d
  let c ← Document.readOr {} (readCompiler dialect {}) (field "compiler")
  Document.readOr c (readOutput dialect c) (field "output")

/-- The document of a configuration; a queue that is not configured is left out. -/
def document (c : Config) : Document :=
  Document.ofFields [
    ("compiler", Document.ofFields (
      [("state_machine_name", .text c.machineName), ("rule_name", .text c.ruleName)]
        ++ c.deadLetterQueue.toList.map fun id => ("dead_letter_queue", .text id))),
    ("output", Document.ofFields [("format", .text c.format.name)])]

end Config

end EventFlow

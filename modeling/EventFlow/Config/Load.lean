import EventFlow.Config.Basic
import EventFlow.Toml.Reader
import EventFlow.Workspace.FileStore
import EventFlow.Workspace.Path

/-!
# Loading the configuration

The configuration stands in a file next to the manifest, or in one that is named; without the file
everything has its default. Variables of the environment override what the file says. One that names
no format is passed over with a warning.
-/

namespace EventFlow.Config

/-- The name of the file. -/
def fileName : String := "morphflow.toml"

/-- What is told about the variables that override the configuration. -/
def variableHelp : List String := [
  "MORPHFLOW_STATE_MACHINE_NAME - Override state machine name (default: StateMachine)",
  "MORPHFLOW_RULE_NAME - Override trigger rule name (default: Rule)",
  "MORPHFLOW_DEAD_LETTER_QUEUE - Override dead-letter queue id",
  "MORPHFLOW_OUTPUT_FORMAT - Override artifact format (json/yaml, default: json)"]

/-- The configuration of a file's text. -/
def ofText (text : String) : Except Toml.Error Config := do
  match ofDocument? .toml (← Toml.read text) with
  | some c => return c
  | none => throw (.invalid "configuration")

/-- The warning about a variable that names no format. -/
def formatWarning (value : String) : Log.Record :=
  { level := .warn
    target := "morphflow::core::config::loader"
    message := "ignoring invalid MORPHFLOW_OUTPUT_FORMAT"
    fields := [("value", .shown value)] }

/-- Overrides a configuration by variables of the environment. -/
def override (c : Config) (environment : String → Option String) : Config × List Log.Record :=
  let c := { c with
    machineName := (environment "MORPHFLOW_STATE_MACHINE_NAME").getD c.machineName
    ruleName := (environment "MORPHFLOW_RULE_NAME").getD c.ruleName
    deadLetterQueue := environment "MORPHFLOW_DEAD_LETTER_QUEUE" <|> c.deadLetterQueue }
  match environment "MORPHFLOW_OUTPUT_FORMAT" with
  | none => (c, [])
  | some word =>
    match OutputFormat.ofWord? word with
    | some format => ({ c with format }, [])
    | none => (c, [formatWarning word])

variable {m : Type → Type} [Monad m] [Workspace.FileStore m]

/-- The configuration of a file, if it is there. -/
def loadFile (path : String) : m (Except ConfigError Config) := do
  if !(← Workspace.FileStore.isPresent path) then return .ok {}
  match ← Workspace.FileStore.readText path with
  | .error e => return .error (.unreadable path e.message)
  | .ok text => return (ofText text).mapError fun e => .unparsable path e.report

/-- The configuration of a file and the environment, with the warnings on the way. -/
def load (path : String) (environment : String → Option String) :
    m (Except ConfigError (Config × List Log.Record)) := do
  return (← loadFile path).map fun c => c.override environment

end EventFlow.Config

import EventFlow.Document.Record
import EventFlow.Log.Filter
import EventFlow.Toml.Reader
import EventFlow.Workspace.FileStore
import EventFlow.Workspace.Path

/-!
# Settings of the log

Where log lines go, which records are kept unless the environment says otherwise, and whether a log
file is written. The settings stand in a file of the workspace; two variables of the environment
override them.

The log file stands in a folder of the workspace, unless its folder is given from the root. A folder
given otherwise may not lead out of the workspace; this is decided from the paths alone, since the
folder need not be there yet.
-/

namespace EventFlow.Log

/-- Where log lines are shown. -/
inductive Console where
  | stdout
  | stderr
  | none
  deriving DecidableEq, Repr, Inhabited

namespace Console

/-- The name of a console. -/
def name : Console → String
  | stdout => "stdout"
  | stderr => "stderr"
  | none => "none"

/-- The console with exactly this name. -/
def ofName? (name : String) : Option Console :=
  if name = "stdout" then some stdout
  else if name = "stderr" then some stderr
  else if name = "none" then some none
  else Option.none

/-- The console that a word names, whatever its case and the blanks around it. -/
def ofWord? (word : String) : Option Console :=
  ofName? (Text.lowerAscii (Text.trim word))

/-- What is told about a word that names no console. -/
def refusal (word : String) : String :=
  "invalid logging.console_output '" ++ word ++ "'; supported values are stdout, stderr, none"

/-- The console to use: log lines stay away from a standard output that carries a result. -/
def select (configured : Option Console) (resultOnStdout : Bool) : Console :=
  match configured.getD stderr with
  | stdout => if resultOnStdout then stderr else stdout
  | console => console

end Console

/-- The settings of the log. -/
structure Settings where
  /-- The folder of the log file. -/
  folder : Option String := none
  defaultLevel : String := "warn"
  fileEnabled : Bool := false
  console : Option Console := none
  deriving DecidableEq, Repr, Inhabited

namespace Settings

/-- Overrides settings by those of a document. -/
def readSection (s : Settings) (d : Document) : Option Settings := do
  let field ← Dialect.toml.fields? ["log_dir", "default_level", "enable_file", "console_output"] 3 d
  let console (d : Document) : Option Console := (Dialect.toml.word? d).bind Console.ofName?
  return {
    folder := ← Document.readOr s.folder (fun d => d.asText.map some) (field "log_dir")
    defaultLevel := ← Document.readOr s.defaultLevel Document.asText (field "default_level")
    fileEnabled := ← Document.readOr s.fileEnabled Document.asBool (field "enable_file")
    console := ← Document.readOr s.console (fun d => (console d).map some)
      (field "console_output") }

/-- Overrides settings by those of a file's text. -/
def readText (s : Settings) (text : String) : Except Toml.Error Settings := do
  let d ← Toml.read text
  match (d.field? "logging").elim (some s) s.readSection with
  | some s => return s
  | none => throw (.invalid "logging settings")

/-- Overrides settings by variables of the environment. -/
def override (s : Settings) (environment : String → Option String) : Settings :=
  let s := match (environment "MORPHFLOW_LOG_CONSOLE").bind Console.ofWord? with
    | some console => { s with console := some console }
    | none => s
  match environment "MORPHFLOW_LOG_DIR" with
  | some folder =>
    if Text.isBlankText folder then s else { s with folder := some folder, fileEnabled := true }
  | none => s

/-- Checks the level and the folder. -/
def validate (s : Settings) : Except String Unit := do
  if (Directive.parse? s.defaultLevel).isNone then
    throw "logging.default_level must be a valid tracing directive"
  if s.folder == some "" then throw "logging.log_dir cannot be empty"

/-- The path of the settings in a workspace. -/
def path (workspace : String) : String :=
  Workspace.Path.join (Workspace.Path.join workspace ".morphflow") "logging.toml"

section Load

variable {m : Type → Type} [Monad m] [Workspace.FileStore m]

/-- The settings of a workspace's file, if it is there. -/
def loadFile (workspace : String) : m (Except String Settings) := do
  let path := path workspace
  if !(← Workspace.FileStore.isPresent path) then return .ok {}
  match ← Workspace.FileStore.readText path with
  | .error e => return .error ("failed to read logging config " ++ path ++ ": " ++ e.message)
  | .ok text =>
    return ((readText {} text).mapError fun e =>
      "failed to parse logging config " ++ path ++ ": " ++ e.report)

/-- The settings: those of the workspace, if there is one, and those of the environment. -/
def load (workspace : Option String) (environment : String → Option String) :
    m (Except String Settings) := do
  let loaded ← match workspace with
    | some workspace => loadFile workspace
    | none => pure (.ok {})
  return do
    let s := (← loaded).override environment
    s.validate
    return s

end Load

/-! ### The log file -/

/-- The name of the log file. -/
def fileName : String := "morphflow.log"

/-- The path of the log file, given the path of the workspace. -/
def filePath (folder : Option String) (workspace : String) : Except String String :=
  match folder.filter Workspace.Path.isAbsolute with
  | some folder => .ok (Workspace.Path.join folder fileName)
  | none =>
    let base := match folder with
      | some folder => Workspace.Path.join workspace folder
      | none => Workspace.Path.join (Workspace.Path.join workspace ".morphflow") "logs"
    let parts := Workspace.Path.simplify (Workspace.Path.parts base)
    if (Workspace.Path.parts workspace).isPrefixOf parts then
      .ok (Workspace.Path.join (Workspace.Path.ofParts parts) fileName)
    else .error ("logging.log_dir resolves outside workspace " ++ workspace)

end Settings

end EventFlow.Log

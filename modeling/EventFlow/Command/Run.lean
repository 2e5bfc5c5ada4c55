import EventFlow.Command.Arguments
import EventFlow.Config.Load
import EventFlow.Log.Line
import EventFlow.Log.Settings
import EventFlow.Machine.Definition
import EventFlow.Machine.Diagram
import EventFlow.Manifest.Text

/-!
# Running commands

A command loads the configuration and the manifest, compiles the pipeline, and writes the document,
the diagram or a line about it to a file or to the standard output. What it tells on the way goes to
the log. A log that cannot be set up is given up with a warning, and the command runs without it.
-/

namespace EventFlow.Command

open Workspace (FileStore FileError)

/-- What a program leaves behind besides files. The standard streams take all that is written to
them. -/
structure Outcome where
  exit : Nat
  stdout : String
  stderr : String
  deriving DecidableEq, Repr, Inhabited

/-- Why a command fails. -/
inductive Failure where
  | diagnosed (diagnostic : Diagnostic)
  /-- The result cannot be written. -/
  | unwritten (message : String)

namespace Failure

/-- What is told about a failed command. -/
def report : Failure → String
  | diagnosed d => d.report
  | unwritten message => "[ERROR] " ++ message ++ "\n"

/-- The exit status of a failed command. -/
def exit : Failure → Nat
  | diagnosed d => d.category.exitStatus
  | unwritten _ => 1

end Failure

/-- The folder of a manifest; a single point for a manifest in the current folder. -/
def manifestFolder (manifest : String) : String :=
  match Workspace.Path.parent? manifest with
  | some "" => "."
  | some folder => folder
  | none => "."

/-- The document of a compiled pipeline in a format. -/
def encode (format : OutputFormat) (d : Document) : String :=
  match format with
  | .json => Json.write d
  | .yaml => Yaml.write d

variable {m : Type → Type} [Monad m] [FileStore m]

/-! ### Compiling -/

/-- A step of a command, which may fail and tells what it does. -/
abbrev Run (m : Type → Type) := ExceptT Failure (StateT (List Log.Record) m)

namespace Run

/-- Tells something. -/
def tell (records : List Log.Record) : Run m Unit :=
  modify (· ++ records)

/-- Goes on with a result, or fails with what is told about it. -/
def ofExcept {ε α : Type} (diagnostic : ε → Diagnostic) : Except ε α → Run m α
  | .ok a => pure a
  | .error e => throw (.diagnosed (diagnostic e))

/-- Something done with files. -/
def files {α : Type} (action : m α) : Run m α :=
  liftM action

end Run

/-- The part of the program that speaks here. -/
def logTarget : String := "morphflow::cli::commands"

/-- Everything that a command works with: the manifest, the configuration and the machine. -/
structure Compilation where
  manifest : Manifest
  config : Config
  compiled : Machine.Compiled

/-- The manifest of a file. -/
def loadManifest (path : String) : Run m Manifest := do
  match ← Run.files (FileStore.readText path) with
  | .error e => Run.ofExcept ManifestError.diagnostic (.error (.unreadable path e.message))
  | .ok text => Run.ofExcept ManifestError.diagnostic (Manifest.parse text)

/-- The warning about failed inputs that go where results go. -/
def sharedQueueWarning (c : Machine.Compiled) : List Log.Record :=
  let states := c.machine.chain.allStates
  let sink := states.findSome? fun s => match s.kind with
    | .sendToQueue queue => some queue
    | _ => none
  let deadLetter := states.findSome? fun s => match s.kind with
    | .catchAndForward target => some target
    | _ => none
  match sink, deadLetter with
  | some sink, some deadLetter =>
    if sink = deadLetter then
      [{ level := .warn
         target := logTarget
         message := "dead-letter queue is also the pipeline sink; consumers must tell results "
          ++ "and failures apart"
         fields := [("queue", .shown sink.id)] }]
    else []
  | _, _ => []

/-- Loads and compiles what a command asks for. -/
def compile (environment : String → Option String) (a : Arguments) : Run m Compilation := do
  let configPath := a.config.getD
    (Workspace.Path.join (manifestFolder a.manifest) Config.fileName)
  let (config, warnings) ← Run.ofExcept ConfigError.diagnostic
    (← Run.files (Config.load configPath environment))
  Run.tell warnings
  Run.ofExcept ConfigError.diagnostic config.validate
  let manifest ← loadManifest a.manifest
  let (pipeline, records) := manifest.buildWithJournal
  Run.tell records
  let pipeline ← Run.ofExcept ManifestError.diagnostic pipeline
  let options ← Run.ofExcept ConfigError.diagnostic (config.options manifest)
  let (compiled, records) := Machine.compileWithJournal options pipeline
  Run.tell records
  let compiled ← Run.ofExcept Machine.CompileError.diagnostic compiled
  Run.tell (sharedQueueWarning compiled)
  Run.tell [{
    level := .info
    target := logTarget
    message := "manifest compiled"
    fields := [("pipeline", .name manifest.name), ("manifest", .shown a.manifest)] }]
  return { manifest, config, compiled }

/-! ### Results -/

/-- Writes a text to a file, in a folder that is created if it is missing. The file is created, or
emptied, before it is written to. -/
def save (path text : String) : m (Except String Unit) := do
  let folder := ((Workspace.Path.parent? path).filter (· != "")).getD ""
  match ← if folder == "" then pure (.ok ()) else FileStore.createFolders folder with
  | .error e => return .error ("failed to create directory " ++ folder ++ ": " ++ e.message)
  | .ok () =>
    match ← FileStore.create path with
    | .error e => return .error ("failed to create " ++ path ++ ": " ++ e.message)
    | .ok () => return (← FileStore.append path text).mapError FileError.message

/-- Hands a result over: to a file, or to the standard output. -/
def deliver (output : Option String) (text : String) : Run m String := do
  match output with
  | none => return text
  | some path =>
    match ← Run.files (save path text) with
    | .ok () => return ""
    | .error message => throw (.unwritten message)

/-- The line about a manifest that compiles. -/
def summary (c : Compilation) : String :=
  let machine := c.compiled.machine
  c.manifest.name ++ ": ok (" ++ toString machine.chain.allStates.length ++ " states, start at "
    ++ machine.chain.startAt.getD "" ++ ", sink "
    ++ (c.manifest.steps.getLast?.map Step.name).getD "none" ++ ", trigger on "
    ++ Text.joinWith ", " c.compiled.rule.detailTypes ++ ")\n"

/-- Runs a command; what it gives is for the standard output. -/
def execute (environment : String → Option String) (a : Arguments) : Run m String := do
  let c ← compile environment a
  match a.verb with
  | .compile =>
    let format := a.format.getD c.config.format
    let text ← deliver a.output (encode format c.compiled.document)
    match a.output with
    | some path =>
      Run.tell [{
        level := .info
        target := logTarget
        message := "artifact written"
        fields := [("path", .shown path), ("format", .shown format.name)] }]
    | none => pure ()
    return text
  | .validate => return summary c
  | .dot => deliver a.output (Machine.Diagram.ofCompiled c.compiled).text

/-! ### The log -/

/-- A log that is set up: what it keeps, where it shows it, and the file it writes. -/
structure Logger where
  filter : Log.Filter
  console : Log.Console
  file : Option String

/-- The filter that the environment asks for, or else that of the settings. -/
def filterFor (settings : Log.Settings) (environment : String → Option String) :
    Except String Log.Filter :=
  match (environment "RUST_LOG").bind Log.Filter.parse? with
  | some filter => .ok filter
  | none =>
    match Log.Filter.parse? settings.defaultLevel with
    | some filter => .ok filter
    | none => .error "failed to configure tracing level: invalid filter directive"

/-- Makes sure that the log file is there. -/
def openLogFile (path : String) : m (Except String Unit) := do
  let folder := (Workspace.Path.parent? path).getD ""
  match ← FileStore.createFolders folder with
  | .error e => return .error ("failed to create log directory " ++ folder ++ ": " ++ e.message)
  | .ok () =>
    return (← FileStore.append path "").mapError fun e =>
      "failed to open log file " ++ path ++ ": " ++ e.message

/-- The path of the log file of a workspace, as its folder is found. -/
def logFilePath (settings : Log.Settings) (workspace : String) : m (Except String String) := do
  let anchor := (← FileStore.canonical? workspace).getD workspace
  return Log.Settings.filePath settings.folder anchor

/-- Sets the log up for a command. -/
def setUpLog (environment : String → Option String) (a : Arguments) : m (Except String Logger) := do
  let workspace := manifestFolder a.manifest
  let loaded ← Log.Settings.load (some workspace) environment
  match loaded.bind fun settings => (filterFor settings environment).map (settings, ·) with
  | .error e => return .error e
  | .ok (settings, filter) =>
    let console := Log.Console.select settings.console a.writesStdout
    if !settings.fileEnabled then return .ok { filter, console, file := none }
    match ← logFilePath settings workspace with
    | .error e => return .error e
    | .ok path => return (← openLogFile path).map fun _ => { filter, console, file := some path }

/-- Shows the records that a log keeps, and writes them to its file. -/
def Logger.emit (time : String) (logger : Logger) (records : List Log.Record) : m String := do
  let kept := records.filter logger.filter.keeps
  match logger.file with
  | some path =>
    let _ ← FileStore.append path (String.join (kept.map (·.fileLine time)))
  | none => pure ()
  return String.join (kept.map (·.consoleLine))

/-! ### Programs -/

/-- Runs the program with a command, at a time and in an environment. -/
def run (time : String) (environment : String → Option String) (a : Arguments) : m Outcome := do
  let logger ← setUpLog environment a
  let (result, records) ← ((execute environment a).run).run []
  let (lines, console, warning) ← match logger with
    | .ok logger => pure (← logger.emit time records, logger.console, "")
    | .error e => pure ("", Log.Console.none, Diagnostic.warning "logging disabled" (some e))
  let shown (c : Log.Console) : String := if console = c then lines else ""
  match result with
  | .ok text =>
    return ⟨0, shown .stdout ++ text, warning ++ shown .stderr⟩
  | .error f =>
    return ⟨f.exit, shown .stdout, warning ++ shown .stderr ++ f.report⟩

end EventFlow.Command

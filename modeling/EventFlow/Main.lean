import EventFlow.Command.Run
import EventFlow.Log.Time
import Std.Time.DateTime.Timestamp

/-!
# The program

The outer layer: the files of the machine as a store, the variables of its environment, its clock,
and its standard streams. Everything else is decided by `EventFlow.Command.run`.
-/

namespace EventFlow

open Workspace

/-- The number and the text of a failure of the machine. -/
def failureParts : IO.Error → Option (UInt32 × String)
  | .alreadyExists _ code details => some (code, details)
  | .otherError code details => some (code, details)
  | .resourceBusy code details => some (code, details)
  | .resourceVanished code details => some (code, details)
  | .unsupportedOperation code details => some (code, details)
  | .hardwareFault code details => some (code, details)
  | .unsatisfiedConstraints code details => some (code, details)
  | .illegalOperation code details => some (code, details)
  | .protocolError code details => some (code, details)
  | .timeExpired code details => some (code, details)
  | .interrupted _ code details => some (code, details)
  | .noFileOrDirectory _ code details => some (code, details)
  | .invalidArgument _ code details => some (code, details)
  | .permissionDenied _ code details => some (code, details)
  | .resourceExhausted _ code details => some (code, details)
  | .inappropriateType _ code details => some (code, details)
  | .noSuchThing _ code details => some (code, details)
  | .unexpectedEof => none
  | .userError _ => none

/-- The number of a failure, which some layers of the machine give with a minus sign. -/
def failureNumber (code : UInt32) : Nat :=
  if code.toNat < Nat.pow 2 31 then code.toNat else Nat.pow 2 32 - code.toNat

/-- A failure of the machine as one of a store. -/
def fileError (e : IO.Error) : FileError :=
  match failureParts e with
  | none => .other (toString e)
  | some (code, details) =>
    match failureNumber code with
    | 2 => .notFound
    | 13 => .other "Permission denied (os error 13)"
    | 17 => .alreadyThere
    | 20 => .notFolder
    | 21 => .isFolder
    | 28 => .noSpace
    | 36 => .nameTooLong
    | number => .other (details ++ " (os error " ++ toString number ++ ")")

/-- Something done with the files of the machine, which may fail. -/
def attempt {α : Type} (action : IO α) : IO (Except FileError α) := do
  try return .ok (← action)
  catch e => return .error (fileError e)

/-- The text of a file of the machine. -/
def readFileText (path : String) : IO (Except FileError String) := do
  match ← attempt (IO.FS.readBinFile path) with
  | .error e => return .error e
  | .ok content =>
    match String.fromUTF8? content with
    | some text => return .ok text
    | none => return .error .notText

instance : FileStore IO where
  isPresent path := do return (← attempt (IO.FS.realPath path)).isOk
  readText := readFileText
  canonical? path := do
    match ← attempt (IO.FS.realPath path) with
    | .ok found => return some (toString found)
    | .error _ => return none
  isFolder path := do return (← attempt (IO.FS.realPath (path ++ "/."))).isOk
  createFolder path := attempt (IO.FS.createDir path)
  create path := attempt (IO.FS.writeFile path "")
  append path text := attempt (IO.FS.withFile path .append fun file => do
    file.putStr text
    file.flush)

/-- The variables of the environment that are looked at. -/
def variableNames : List String := [
  "MORPHFLOW_STATE_MACHINE_NAME", "MORPHFLOW_RULE_NAME", "MORPHFLOW_DEAD_LETTER_QUEUE",
  "MORPHFLOW_OUTPUT_FORMAT", "MORPHFLOW_LOG_CONSOLE", "MORPHFLOW_LOG_DIR", "RUST_LOG"]

/-- The environment of the program. -/
def readEnvironment : IO (String → Option String) := do
  let values ← variableNames.mapM fun name => do return (name, ← IO.getEnv name)
  return fun name => (values.lookup name).join

/-- The time of the machine's clock. -/
def currentTime : IO String := do
  let now ← Std.Time.Timestamp.now
  return Log.timeText (now.toNanosecondsSinceUnixEpoch.val.toNat / 1000)

/-- What is told about a command line that asks for no command. -/
def tellUsage (e : Command.UsageError) : IO Unit :=
  match e with
  | .help => IO.print Command.helpText
  | .version => IO.print Command.versionLine
  | .helpForNothing => IO.eprint Command.helpText
  | e => IO.eprint ("error: " ++ e.message ++ "\n\n" ++ Command.helpText)

end EventFlow

open EventFlow in
/-- Runs the command that the arguments ask for. -/
def main (arguments : List String) : IO UInt32 := do
  match Command.Arguments.parse arguments with
  | .error e =>
    tellUsage e
    return e.exitStatus.toUInt32
  | .ok a =>
    let outcome : Command.Outcome ← Command.run (← currentTime) (← readEnvironment) a
    IO.print outcome.stdout
    IO.eprint outcome.stderr
    return outcome.exit.toUInt32

import EventFlow.Config.Basic

/-!
# Command lines

A command line names a command, the manifest it works on, and options. An option has a long name
behind two hyphens, one of them also a letter behind one; its value stands behind an equals sign or
in the next argument, and behind the letter also directly. A value in the next argument may not look
like an option. Behind two hyphens alone everything is a value. No option is given twice.

The arguments are looked at from left to right. A value is checked when the next option or value is
met, not when it is read, so that an argument that is not known is found first.
-/

namespace EventFlow.Command

/-- What a command line can ask for. -/
inductive Verb where
  | compile
  | validate
  | dot
  deriving DecidableEq, Repr, Inhabited

/-- The name of a command. -/
def Verb.name : Verb → String
  | compile => "compile"
  | validate => "validate"
  | dot => "dot"

/-- The command with a name. -/
def Verb.ofName? (name : String) : Option Verb :=
  [compile, validate, dot].find? (·.name == name)

/-- A command with its manifest and its options. -/
structure Arguments where
  verb : Verb
  manifest : String
  output : Option String := none
  format : Option OutputFormat := none
  config : Option String := none
  deriving DecidableEq, Repr, Inhabited

/-- Whether the result goes to the standard output. -/
def Arguments.writesStdout (a : Arguments) : Bool :=
  match a.verb with
  | .validate => true
  | _ => a.output.isNone

/-- Why a command line asks for no command. -/
inductive UsageError where
  | help
  | version
  | helpForNothing
  | unknownCommand
  | missingManifest
  | unknownArgument
  | invalidValue
  | invalidFormat
  | repeated
  | unwantedValue
  deriving DecidableEq, Repr

namespace UsageError

/-- The name of the kind of a usage error. -/
def name : UsageError → String
  | help => "DisplayHelp"
  | version => "DisplayVersion"
  | helpForNothing => "DisplayHelpOnMissingArgumentOrSubcommand"
  | unknownCommand => "InvalidSubcommand"
  | missingManifest => "MissingRequiredArgument"
  | unknownArgument => "UnknownArgument"
  | invalidValue => "InvalidValue"
  | invalidFormat => "ValueValidation"
  | repeated => "ArgumentConflict"
  | unwantedValue => "TooManyValues"

/-- What is wrong with the command line. -/
def message : UsageError → String
  | help => "help was asked for"
  | version => "the version was asked for"
  | helpForNothing => "no command is given"
  | unknownCommand => "there is no such command"
  | missingManifest => "no manifest is given"
  | unknownArgument => "an argument is not known"
  | invalidValue => "an option or a path has no value"
  | invalidFormat => "the format is neither json nor yaml"
  | repeated => "an option is given twice"
  | unwantedValue => "an option takes no value"

/-- The exit status of a program with such a command line. -/
def exitStatus : UsageError → Nat
  | help => 0
  | version => 0
  | _ => 2

end UsageError

/-- The line about the version. -/
def versionLine : String := "morphflow 0.3.12\n"

/-- How the program is called. -/
def helpText : String :=
  "Usage: morphflow <COMMAND>\n\n"
    ++ "Commands:\n"
    ++ "  compile <MANIFEST> [-o|--output <FILE>] [--format <json|yaml>] [--config <FILE>]\n"
    ++ "  validate <MANIFEST> [--config <FILE>]\n"
    ++ "  dot <MANIFEST> [-o|--output <FILE>] [--config <FILE>]\n"
    ++ "  help\n\n"
    ++ "Options:\n"
    ++ "  -h, --help     Print help\n"
    ++ "  -V, --version  Print version\n"

/-! ### Arguments of a command -/

/-- What a value can be given to. -/
inductive Slot where
  | manifest
  | output
  | format
  | config
  deriving DecidableEq, Repr

/-- The options of a command. -/
def slots : Verb → List Slot
  | .compile => [.output, .format, .config]
  | .validate => [.config]
  | .dot => [.output, .config]

/-- The long name of an option. -/
def Slot.longName : Slot → String
  | manifest => ""
  | output => "output"
  | format => "format"
  | config => "config"

/-- The state of reading the arguments of a command. -/
structure Reading where
  verb : Verb
  manifest : Option String := none
  output : Option String := none
  format : Option OutputFormat := none
  config : Option String := none
  /-- What was met last, with its value if that was met too. -/
  pending : Option (Slot × Option String) := none
  /-- Whether the manifest was met. -/
  manifestMet : Bool := false
  /-- Whether everything is a value. -/
  valuesOnly : Bool := false

namespace Reading

/-- A path, which may not be empty. -/
def path (value : String) : Except UsageError String :=
  if value == "" then .error .invalidValue else .ok value

/-- Gives a value to a slot. -/
def give (slot : Slot) (value : String) (r : Reading) : Except UsageError Reading := do
  match slot with
  | .manifest => return { r with manifest := some (← path value) }
  | .output =>
    if r.output.isSome then throw .repeated
    return { r with output := some (← path value) }
  | .format =>
    if r.format.isSome then throw .repeated
    match OutputFormat.ofWord? value with
    | some format => return { r with format := some format }
    | none => throw .invalidFormat
  | .config =>
    if r.config.isSome then throw .repeated
    return { r with config := some (← path value) }

/-- Checks what was met last. -/
def settle (r : Reading) : Except UsageError Reading :=
  match r.pending with
  | none => .ok r
  | some (_, none) => .error .invalidValue
  | some (slot, some value) => { r with pending := none }.give slot value

/-- An option, perhaps with its value in the same argument. -/
def meetOption (slot : Slot) (value : Option String) (r : Reading) : Except UsageError Reading := do
  let r ← r.settle
  match value with
  | some value => r.give slot value
  | none => return { r with pending := some (slot, none) }

/-- The request for help. -/
def meetHelp (r : Reading) : Except UsageError Reading := do
  let _ ← r.settle
  throw .help

/-- A value that belongs to no option: the manifest, if it was not met before. -/
def meetValue (value : String) (r : Reading) : Except UsageError Reading := do
  if r.manifestMet then throw .unknownArgument
  let r ← r.settle
  return { r with pending := some (.manifest, some value), manifestMet := true }

/-- The name and the value of a long option, from behind its hyphens. -/
def splitLong (cs : List Char) : String × Option String :=
  let name := String.ofList (cs.takeWhile (· != '='))
  match cs.dropWhile (· != '=') with
  | [] => (name, none)
  | _ :: value => (name, some (String.ofList value))

/-- A long option, from behind its hyphens. -/
def meetLong (cs : List Char) (r : Reading) : Except UsageError Reading :=
  let (name, value) := splitLong cs
  if name == "help" then if value.isSome then .error .unwantedValue else r.meetHelp
  else match (slots r.verb).find? (·.longName == name) with
    | some slot => r.meetOption slot value
    | none => .error .unknownArgument

/-- An option by its letter, from behind its hyphen. -/
def meetShort (cs : List Char) (r : Reading) : Except UsageError Reading :=
  match cs with
  | 'h' :: _ => r.meetHelp
  | 'o' :: rest =>
    if (slots r.verb).contains .output then
      match rest with
      | [] => r.meetOption .output none
      | '=' :: value => r.meetOption .output (some (String.ofList value))
      | value => r.meetOption .output (some (String.ofList value))
    else .error .unknownArgument
  | _ => .error .unknownArgument

/-- The next argument. -/
def meet (r : Reading) (argument : String) : Except UsageError Reading :=
  if r.valuesOnly then r.meetValue argument
  else match argument.toList with
    | ['-', '-'] => .ok { r with valuesOnly := true }
    | '-' :: '-' :: cs => r.meetLong cs
    | '-' :: c :: cs => r.meetShort (c :: cs)
    | _ =>
      match r.pending with
      | some (slot, none) => .ok { r with pending := some (slot, some argument) }
      | _ => r.meetValue argument

/-- The command, after the last argument. -/
def finish (r : Reading) : Except UsageError Arguments := do
  let r ← r.settle
  match r.manifest with
  | some manifest =>
    return { verb := r.verb, manifest, output := r.output, format := r.format, config := r.config }
  | none => throw .missingManifest

end Reading

/-! ### The whole line -/

/-- What `help` with some names is about. -/
def helpFor : List String → UsageError
  | [] => .help
  | [name] => if name == "help" || (Verb.ofName? name).isSome then .help else .unknownCommand
  | name :: next :: rest =>
    if name != "help" then .unknownCommand
    else if rest.isEmpty && (next == "help" || (Verb.ofName? next).isSome) then .help
    else .unknownCommand

/-- Options in front of the command: help and the version. -/
def leadingOption (argument : String) : UsageError :=
  match argument.toList with
  | '-' :: '-' :: cs =>
    let (name, value) := Reading.splitLong cs
    if name == "help" then if value.isSome then .unwantedValue else .help
    else if name == "version" then if value.isSome then .unwantedValue else .version
    else .unknownArgument
  | '-' :: 'h' :: _ => .help
  | '-' :: 'V' :: _ => .version
  | _ => .unknownArgument

/-- The first argument behind two hyphens in front of the command, where none can stand. -/
def behindHyphens : List String → UsageError
  | [] => .helpForNothing
  | name :: _ =>
    if name == "help" || (Verb.ofName? name).isSome then .unknownArgument else .unknownCommand

/-- The command that some arguments ask for. -/
def Arguments.parse (arguments : List String) : Except UsageError Arguments :=
  match arguments with
  | [] => .error .helpForNothing
  | first :: rest =>
    match Verb.ofName? first with
    | some verb => do
      let r ← rest.foldlM Reading.meet { verb }
      r.finish
    | none =>
      if first == "help" then .error (helpFor rest)
      else if first == "--" then .error (behindHyphens rest)
      else if first.startsWith "-" && first != "-" then .error (leadingOption first)
      else .error .unknownCommand

end EventFlow.Command

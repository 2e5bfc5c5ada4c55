import EventFlow.Workspace.Path

/-!
# Files

What the program does with files, over any kind of store: look whether something is there, read a
text, find the full path of a folder, create folders and files, and write to files. Paths that do
not start at the root count from the store's current folder.

A store creates one folder at a time. Creating a folder together with those around it is done here
once for all stores. A file is created first and written to afterwards, and either may fail.
-/

namespace EventFlow.Workspace

/-- Why something cannot be done with a path. -/
inductive FileError where
  | notFound
  | alreadyThere
  | notFolder
  | isFolder
  | nameTooLong
  /-- There is no room for what is written. -/
  | noSpace
  /-- The content is no text. -/
  | notText
  | other (message : String)
  deriving DecidableEq, Repr

/-- What is told about it. -/
def FileError.message : FileError → String
  | notFound => "No such file or directory (os error 2)"
  | alreadyThere => "File exists (os error 17)"
  | notFolder => "Not a directory (os error 20)"
  | isFolder => "Is a directory (os error 21)"
  | nameTooLong => "File name too long (os error 36)"
  | noSpace => "No space left on device (os error 28)"
  | notText => "stream did not contain valid UTF-8"
  | other message => message

/-- A store of files and folders. -/
class FileStore (m : Type → Type) where
  /-- Whether there is a file or a folder. -/
  isPresent : String → m Bool
  /-- The text of a file. -/
  readText : String → m (Except FileError String)
  /-- The path from the root of something that is there. -/
  canonical? : String → m (Option String)
  /-- Whether there is a folder. -/
  isFolder : String → m Bool
  /-- Creates a folder in one that is there. -/
  createFolder : String → m (Except FileError Unit)
  /-- Creates a file with nothing in it; one that is there loses its content. -/
  create : String → m (Except FileError Unit)
  /-- Writes a text at the end of a file, which is created if it is missing. -/
  append : String → String → m (Except FileError Unit)

namespace FileStore

variable {m : Type → Type} [Monad m] [FileStore m]

/-- Takes a folder that is there already for one that was created. -/
def acceptFolder (path : String) : Except FileError Unit → m (Except FileError Unit)
  | .ok () => return .ok ()
  | .error e => do
    if ← isFolder path then return .ok () else return .error e

/-- Creates a folder and those around it, as far as they are missing, at most so many of them. What
was created before a failure stays. -/
def createFoldersWithin : Nat → String → m (Except FileError Unit)
  | 0, _ => return .error .notFound
  | count + 1, path => do
    if path == "" then return .ok ()
    match ← createFolder path with
    | .error .notFound =>
      match Path.parent? path with
      | none => return .error (.other "failed to create whole tree")
      | some parent =>
        match ← createFoldersWithin count parent with
        | .error e => return .error e
        | .ok () => acceptFolder path (← createFolder path)
    | result => acceptFolder path result

/-- Creates a folder and those around it, as far as they are missing. A path has fewer parts than
one more than its length. -/
def createFolders (path : String) : m (Except FileError Unit) :=
  createFoldersWithin (path.length + 1) path

end FileStore

end EventFlow.Workspace

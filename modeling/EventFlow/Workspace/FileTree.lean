import EventFlow.Workspace.FileStore
import EventFlow.Workspace.Path

/-!
# Trees of files

A store of files that is a value: the files and folders below a root by the names that lead to
them, and a current folder. Some folders are managed from outside; nothing can be created in
these. Some files can hold only so many bytes; what is written to them beyond that is refused, and
what fits stays.
-/

namespace EventFlow.Workspace

/-- What stands at a place. -/
inductive Entry where
  | file (content : ByteArray)
  | folder
  /-- A folder in which nothing can be created. -/
  | sealedFolder

/-- Files and folders below a root, each by the names that lead to it. -/
structure FileTree where
  /-- The names that lead to the current folder. -/
  current : List String := []
  entries : List (List String × Entry) := []
  /-- How many bytes the file at a place can hold, if that is limited. -/
  capacity? : List String → Option Nat := fun _ => none

namespace FileTree

/-- What stands at a place; the root is a folder. -/
def entryAt? (t : FileTree) (place : List String) : Option Entry :=
  if place.isEmpty then some .folder
  else (t.entries.find? (·.1 == place)).map (·.2)

/-- Puts something at a place. -/
def setEntry (place : List String) (entry : Entry) (t : FileTree) : FileTree :=
  if t.entries.any (·.1 == place) then
    { t with entries := t.entries.map fun e => if e.1 == place then (place, entry) else e }
  else { t with entries := t.entries ++ [(place, entry)] }

/-! ### Finding places -/

/-- Goes one part further from a folder. -/
def follow (t : FileTree) (place : List String) (part : Part) : Except FileError (List String) :=
  match t.entryAt? place, part with
  | none, _ => .error .notFound
  | some (.file _), _ => .error .notFolder
  | some _, .root => .ok []
  | some _, .here => .ok place
  | some _, .up => .ok place.dropLast
  | some _, .name name =>
    if name.utf8ByteSize > 255 then .error .nameTooLong else .ok (place ++ [name])

/-- The place that a path leads to, at which nothing need be. No name holds the character zero. -/
def place (t : FileTree) (path : String) : Except FileError (List String) :=
  if path.toList.contains '\x00' then
    .error (.other "file name contained an unexpected NUL byte")
  else (Path.parts path).foldlM t.follow t.current

/-- Whether a path is written as that of a folder. -/
def asksForFolder (path : String) : Bool :=
  match (Text.splitOnChar '/' path).getLast? with
  | some last => last == "" || last == "." || last == ".."
  | none => true

/-- Whether a path ends in a single point, so that there must be a folder in front of it. -/
def endsInPoint (path : String) : Bool :=
  ((Text.splitOnChar '/' path).reverse.dropWhile (· == "")).head? == some "."

/-- What a path leads to, and where. -/
def find (t : FileTree) (path : String) : Except FileError (List String × Entry) := do
  if path == "" then throw .notFound
  let place ← t.place path
  match t.entryAt? place with
  | none => throw .notFound
  | some (.file content) =>
    if asksForFolder path then throw .notFolder else return (place, .file content)
  | some entry => return (place, entry)

/-! ### Reading -/

/-- The text of a file. -/
def readText (t : FileTree) (path : String) : Except FileError String := do
  match (← t.find path).2 with
  | .file content =>
    match String.fromUTF8? content with
    | some text => return text
    | none => throw .notText
  | _ => throw .isFolder

/-- The path from the root of something that is there. -/
def canonical? (t : FileTree) (path : String) : Option String :=
  match t.find path with
  | .ok (place, _) => some ("/" ++ Text.joinWith "/" place)
  | .error _ => none

/-! ### Writing -/

/-- Checks that something can be created at a place. -/
def checkOpen (t : FileTree) (place : List String) : Except FileError Unit :=
  match t.entryAt? place.dropLast with
  | some .folder => .ok ()
  | _ => .error .notFound

/-- Creates one folder. -/
def createFolder (path : String) (t : FileTree) : Except FileError FileTree := do
  let place ← t.place path
  if (t.entryAt? place).isSome then throw .alreadyThere
  t.checkOpen place
  return t.setEntry place .folder

/-- Whether a path leads to a folder. -/
def isFolder (t : FileTree) (path : String) : Bool :=
  match t.find path with
  | .ok (_, .folder) => true
  | .ok (_, .sealedFolder) => true
  | _ => false

/-- The place of the file that a path leads to, which is there or can be created. -/
def filePlace (t : FileTree) (path : String) : Except FileError (List String) := do
  if path == "" then throw .notFound
  let place ← t.place path
  match t.entryAt? place with
  | some (.file _) =>
    if endsInPoint path then throw .notFolder
    if asksForFolder path then throw .isFolder
    return place
  | some _ => throw .isFolder
  | none =>
    if endsInPoint path then throw .notFound
    if asksForFolder path then throw .isFolder
    t.checkOpen place
    return place

/-- What is in the file at a place; nothing, if it is missing. -/
def contentAt (t : FileTree) (place : List String) : ByteArray :=
  match t.entryAt? place with
  | some (.file content) => content
  | _ => .empty

/-- How many of some bytes still fit into the file at a place. -/
def fitting (t : FileTree) (place : List String) (bytes : ByteArray) : Nat :=
  match t.capacity? place with
  | none => bytes.size
  | some capacity => min bytes.size (capacity - (t.contentAt place).size)

/-- Writes bytes at the end of the file at a place, as far as they fit. -/
def extend (place : List String) (bytes : ByteArray) (t : FileTree) :
    Except FileError Unit × FileTree :=
  let count := t.fitting place bytes
  (if count = bytes.size then .ok () else .error .noSpace,
    t.setEntry place (.file (t.contentAt place ++ bytes.extract 0 count)))

/-- Makes a change to a store that is a value; a change that fails leaves it as it is. -/
def change (f : FileTree → Except FileError FileTree) : StateM FileTree (Except FileError Unit) := do
  match f (← get) with
  | .ok t =>
    set t
    return .ok ()
  | .error e => return .error e

/-- Does something with the file that a path leads to. -/
def withFile (path : String) (f : List String → FileTree → Except FileError Unit × FileTree) :
    StateM FileTree (Except FileError Unit) :=
  modifyGet fun t => match t.filePlace path with
    | .ok place => f place t
    | .error e => (.error e, t)

instance : FileStore (StateM FileTree) where
  isPresent path := do return (← get).find path |>.isOk
  readText path := do return (← get).readText path
  canonical? path := do return (← get).canonical? path
  isFolder path := do return (← get).isFolder path
  createFolder path := change (createFolder path)
  create path := withFile path fun place t => (.ok (), t.setEntry place (.file .empty))
  append path text := withFile path (extend · text.toUTF8)

end FileTree

end EventFlow.Workspace

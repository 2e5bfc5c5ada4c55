import EventFlow.Text.Pieces

/-!
# Paths

A path is a text whose parts stand between slashes. Empty parts do not count, nor does a single
point, except as the first part of a path that does not start at the root. Paths are compared and
simplified by their parts; what is told about a path shows it as it was written.
-/

namespace EventFlow.Workspace

/-- A part of a path. -/
inductive Part where
  | root
  /-- A single point. -/
  | here
  /-- Two points. -/
  | up
  | name (name : String)
  deriving DecidableEq, Repr, Inhabited

namespace Path

/-- Whether a path starts at the root. -/
def isAbsolute (path : String) : Bool :=
  path.toList.head? == some '/'

/-- The part that a text between slashes stands for, if it counts. -/
def part? (piece : String) : Option Part :=
  if piece == "" || piece == "." then none
  else if piece == ".." then some .up
  else some (.name piece)

/-- The parts of a path. -/
def parts (path : String) : List Part :=
  let pieces := Text.splitOnChar '/' path
  let front : List Part :=
    if isAbsolute path then [.root] else if pieces.head? == some "." then [.here] else []
  front ++ pieces.filterMap part?

/-- The text of a part. -/
def partText : Part → String
  | .root => "/"
  | .here => "."
  | .up => ".."
  | .name name => name

/-- A path behind another one. -/
def join (base path : String) : String :=
  if isAbsolute path || base == "" then path
  else if base.toList.getLast? == some '/' then base ++ path
  else base ++ "/" ++ path

/-- The path with some parts. -/
def ofParts (parts : List Part) : String :=
  parts.foldl (fun path part => join path (partText part)) ""

/-! ### The folder around a path -/

/-- How many characters stand in front of the parts that can be cut off: the slash of the root, or
the point of a path that starts with one. -/
def leadLength (path : List Char) : Nat :=
  match path with
  | '/' :: _ => 1
  | '.' :: [] => 1
  | '.' :: '/' :: _ => 1
  | _ => 0

/-- Cuts off the last part of a path in reverse, with the slash in front of it. -/
def dropLastPart (reversed : List Char) : List Char :=
  (reversed.dropWhile (· != '/')).drop 1

/-- Cuts parts that do not count off the end of a path in reverse. -/
def dropIdle : Nat → List Char → List Char
  | 0, reversed => reversed
  | steps + 1, reversed =>
    let last := reversed.takeWhile (· != '/')
    if reversed.isEmpty || !(last == [] || last == ['.']) then reversed
    else dropIdle steps (dropLastPart reversed)

/-- The path without its last part, as it was written; the root and the empty path have none. -/
def parent? (path : String) : Option String :=
  let cs := path.toList
  let lead := cs.take (leadLength cs)
  let body := dropIdle cs.length (cs.drop (leadLength cs)).reverse
  if body.isEmpty then
    if lead == ['.'] then some "" else none
  else
    some (String.ofList (lead ++ (dropIdle cs.length (dropLastPart body)).reverse))

/-! ### Simplification -/

/-- The parts of a path without points, where two points cancel the part before them. -/
def simplify (parts : List Part) : List Part :=
  parts.foldl (fun done part =>
    match part with
    | .here => done
    | .up => if done.getLast? == some .root then done else done.dropLast
    | part => done ++ [part]) []

end Path

end EventFlow.Workspace

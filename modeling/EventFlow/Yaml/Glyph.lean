import EventFlow.Yaml.Char

/-!
# Characters in their places

A stream is scanned as a list of characters that know their line, their column and their index in
the stream. Placing the characters also settles line breaks: a carriage return, a line feed, the
two together and the next-line character all become one line feed, while the line and paragraph
separators stay as they are.
-/

namespace EventFlow.Yaml

/-- A character and its place. -/
structure Glyph where
  char : Char
  line : Nat
  column : Nat
  index : Nat
  deriving Repr

namespace Glyph

/-- The characters of a text in their places. -/
def place (line column index : Nat) : List Char → List Glyph
  | [] => []
  | '\r' :: '\n' :: cs => ⟨'\n', line, column, index⟩ :: place (line + 1) 0 (index + 2) cs
  | c :: cs =>
    if c == '\r' || c == '\n' || c == '\u0085' then
      ⟨'\n', line, column, index⟩ :: place (line + 1) 0 (index + 1) cs
    else if isBreak c then
      ⟨c, line, column, index⟩ :: place (line + 1) 0 (index + 1) cs
    else ⟨c, line, column, index⟩ :: place line (column + 1) (index + 1) cs

/-- The characters of a stream, unless one of them may not stand in it. A byte order mark in front
is left out but keeps its column. -/
def ofText? (s : String) : Option (List Glyph) :=
  if s.toList.all isStreamChar then
    match place 0 0 0 s.toList with
    | g :: gs => some (if g.char == '\ufeff' then gs else g :: gs)
    | [] => some []
  else none

/-- The characters without their places. -/
def chars (gs : List Glyph) : List Char :=
  gs.map (·.char)

/-- Whether a blank, a break or the end comes next. -/
def atSpacing : List Glyph → Bool
  | [] => true
  | g :: _ => isSpacing g.char || isBreak g.char

/-- Whether one of some characters comes next. -/
def atOneOf (cs : String) : List Glyph → Bool
  | [] => false
  | g :: _ => cs.toList.contains g.char

/-- The rest after the blanks of the line. -/
def dropSpacing (gs : List Glyph) : List Glyph :=
  gs.dropWhile (isSpacing ·.char)

/-- Whether three equal marks, a document's start or end, stand at the beginning of a line. -/
def atDocumentMark (mark : Char) : List Glyph → Bool
  | a :: b :: c :: rest =>
    a.column == 0 && a.char == mark && b.char == mark && c.char == mark && atSpacing rest
  | _ => false

/-- Whether a document's start or end stands here. -/
def atDocumentBoundary (gs : List Glyph) : Bool :=
  atDocumentMark '-' gs || atDocumentMark '.' gs

/-- What follows the rest of a line on which only blanks and a comment stand. -/
def finishLine? (gs : List Glyph) : Option (List Glyph) :=
  let gs := dropSpacing gs
  let gs := if atOneOf "#" gs then gs.dropWhile (fun g => !isBreak g.char) else gs
  match gs with
  | [] => some []
  | g :: rest => if isBreak g.char then some rest else none

/-- The lines of a stream, each with the break that ends it. -/
def lines (gs : List Glyph) : List (List Glyph) :=
  let step (g : Glyph) (acc : List (List Glyph)) : List (List Glyph) :=
    if isBreak g.char then [g] :: acc
    else match acc with
      | [] => [[g]]
      | l :: ls => (g :: l) :: ls
  gs.foldr step []

end Glyph

end EventFlow.Yaml

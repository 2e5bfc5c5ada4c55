import EventFlow.Yaml.Glyph

/-!
# Scanning scalars

Plain and quoted scalars run over lines by folding: a single line break between words is a blank,
further ones stand for themselves (`Gap`). Block scalars are read line by line at an indentation
that is given or found; literal ones keep their breaks, folded ones lose single breaks between
lines that do not start with a blank.

Each scan takes the characters ahead and gives the text with the characters after it, or nothing
if the scalar is malformed.
-/

namespace EventFlow.Yaml

/-! ### Gaps between words -/

/-- What stands between two words of a scalar. -/
inductive Gap where
  | nothing
  /-- Blanks on one line, last one first. -/
  | blanks (reversed : List Char)
  /-- A line break, unless it was escaped, and the breaks of the empty lines after it, last one
  first. -/
  | lines (first : Option Char) (reversed : List Char)

namespace Gap

/-- The gap after another blank. -/
def addBlank (c : Char) : Gap → Gap
  | nothing => blanks [c]
  | blanks cs => blanks (c :: cs)
  | lines first cs => lines first cs

/-- The gap after another line break. -/
def addBreak (c : Char) : Gap → Gap
  | nothing => lines (some c) []
  | blanks _ => lines (some c) []
  | lines first cs => lines first (c :: cs)

/-- Whether the gap holds a line break. -/
def isLines : Gap → Bool
  | lines _ _ => true
  | _ => false

/-- Whether there is no gap. -/
def isNothing : Gap → Bool
  | nothing => true
  | _ => false

/-- What a gap contributes to the text, last character first. -/
def folded : Gap → List Char
  | nothing => []
  | blanks cs => cs
  | lines (some '\n') [] => [' ']
  | lines (some '\n') cs => cs
  | lines first cs => cs ++ first.toList

end Gap

/-! ### Quoted scalars -/

/-- The rest of a scalar between single quotes; the text so far is kept last character first. -/
def scanSingle (text : List Char) (gap : Gap) : List Glyph → Option (String × List Glyph)
  | [] => none
  | g :: gs =>
    if isSpacing g.char then scanSingle text (gap.addBlank g.char) gs
    else if isBreak g.char then scanSingle text (gap.addBreak g.char) gs
    else if Glyph.atDocumentBoundary (g :: gs) then none
    else
      let text := gap.folded ++ text
      if g.char != '\'' then scanSingle (g.char :: text) .nothing gs
      else match gs with
        | q :: rest =>
          if q.char == '\'' then scanSingle ('\'' :: text) .nothing rest
          else some (String.ofList text.reverse, q :: rest)
        | [] => some (String.ofList text.reverse, [])

/-- The character that a letter after a backslash stands for. -/
def escape? (c : Char) : Option Char :=
  match c with
  | '0' => some '\x00'
  | 'a' => some '\x07'
  | 'b' => some '\x08'
  | 't' => some '\t'
  | '\t' => some '\t'
  | 'n' => some '\n'
  | 'v' => some '\x0b'
  | 'f' => some '\x0c'
  | 'r' => some '\r'
  | 'e' => some '\x1b'
  | ' ' => some ' '
  | '"' => some '"'
  | '/' => some '/'
  | '\\' => some '\\'
  | 'N' => some '\u0085'
  | '_' => some '\u00a0'
  | 'L' => some '\u2028'
  | 'P' => some '\u2029'
  | _ => none

/-- How many digits of base sixteen follow a letter after a backslash. -/
def escapeDigits? (c : Char) : Option Nat :=
  match c with
  | 'x' => some 2
  | 'u' => some 4
  | 'U' => some 8
  | _ => none

/-- The value of a digit of base sixteen. -/
def hexValue? (c : Char) : Option Nat :=
  if c.isDigit then some (c.toNat - '0'.toNat)
  else if 'a' ≤ c && c ≤ 'f' then some (c.toNat - 'a'.toNat + 10)
  else if 'A' ≤ c && c ≤ 'F' then some (c.toNat - 'A'.toNat + 10)
  else none

/-- The character with a number, surrogates excluded. -/
def charOfNat? (n : Nat) : Option Char :=
  if n.isValidChar then some (Char.ofNat n) else none

/-- What the scan of a scalar between double quotes is in the middle of. -/
inductive Escape where
  | nothing
  /-- A backslash stood last. -/
  | started
  /-- Digits of base sixteen are still missing. -/
  | digits (missing value : Nat)

/-- The rest of a scalar between double quotes; the text so far is kept last character first. -/
def scanDouble (text : List Char) (gap : Gap) (state : Escape) :
    List Glyph → Option (String × List Glyph)
  | [] => none
  | g :: gs =>
    match state with
    | .started =>
      if isBreak g.char then scanDouble text (.lines none []) .nothing gs
      else match escape? g.char with
        | some c => scanDouble (c :: text) .nothing .nothing gs
        | none =>
          match escapeDigits? g.char with
          | some n => scanDouble text .nothing (.digits n 0) gs
          | none => none
    | .digits missing value =>
      match hexValue? g.char with
      | none => none
      | some d =>
        let value := 16 * value + d
        if missing ≤ 1 then
          match charOfNat? value with
          | some c => scanDouble (c :: text) .nothing .nothing gs
          | none => none
        else scanDouble text .nothing (.digits (missing - 1) value) gs
    | .nothing =>
      if isSpacing g.char then scanDouble text (gap.addBlank g.char) .nothing gs
      else if isBreak g.char then scanDouble text (gap.addBreak g.char) .nothing gs
      else if Glyph.atDocumentBoundary (g :: gs) then none
      else
        let text := gap.folded ++ text
        if g.char == '"' then some (String.ofList text.reverse, gs)
        else if g.char == '\\' then scanDouble text .nothing .started gs
        else scanDouble (g.char :: text) .nothing .nothing gs

/-! ### Plain scalars -/

/-- A plain scalar, what follows it, and whether a line break came before that. -/
structure PlainScan where
  text : String
  rest : List Glyph
  broken : Bool

/-- The rest of a plain scalar in flow or block context; in block context its lines are indented
by at least `indent`. The text so far is kept last character first. -/
def scanPlain (inFlow : Bool) (indent : Int) (text : List Char) (gap : Gap) :
    List Glyph → Option PlainScan
  | [] => some ⟨String.ofList text.reverse, [], gap.isLines⟩
  | g :: gs =>
    let finish : PlainScan := ⟨String.ofList text.reverse, g :: gs, gap.isLines⟩
    if isSpacing g.char then
      if gap.isLines && g.char == '\t' && (g.column : Int) < indent then none
      else scanPlain inFlow indent text (gap.addBlank g.char) gs
    else if isBreak g.char then scanPlain inFlow indent text (gap.addBreak g.char) gs
    else if !gap.isNothing && ((!inFlow && (g.column : Int) < indent)
        || Glyph.atDocumentBoundary (g :: gs) || g.char == '#') then some finish
    else if inFlow && g.char == ':' && Glyph.atOneOf ",?[]\x7b\x7d" gs then none
    else if (g.char == ':' && Glyph.atSpacing gs)
        || (inFlow && ",[]\x7b\x7d".toList.contains g.char) then some finish
    else scanPlain inFlow indent (g.char :: (gap.folded ++ text)) .nothing gs

/-! ### Block scalars -/

/-- What becomes of the line breaks at the end of a block scalar. -/
inductive Chomping where
  | strip
  | clip
  | keep

/-- The part of a block scalar's text that is settled, last character first, and the line breaks
that wait for the next line. -/
structure BlockText where
  text : List Char := []
  /-- The break of the last line with content. -/
  lineBreak : Option Char := none
  /-- The breaks of empty lines since, last one first. -/
  emptyBreaks : List Char := []
  /-- Whether the last line with content starts with a blank. -/
  startsBlank : Bool := false

namespace BlockText

/-- Adds a line with content. -/
def addLine (folded : Bool) (line : List Glyph) (b : BlockText) : BlockText :=
  let content := (line.filter (fun g => !isBreak g.char)).map (·.char)
  let startsBlank := content.head?.any isSpacing
  let joint : List Char :=
    if folded && b.lineBreak == some '\n' && !b.startsBlank && !startsBlank then
      if b.emptyBreaks.isEmpty then [' '] else b.emptyBreaks
    else b.emptyBreaks ++ b.lineBreak.toList
  { text := content.reverse ++ (joint ++ b.text)
    lineBreak := (line.find? (fun g => isBreak g.char)).map (·.char)
    startsBlank }

/-- The text of the finished scalar. -/
def finish (chomping : Chomping) (b : BlockText) : String :=
  let tail : List Char := match chomping with
    | .strip => []
    | .clip => b.lineBreak.toList
    | .keep => b.emptyBreaks ++ b.lineBreak.toList
  String.ofList (tail ++ b.text).reverse

end BlockText

/-- The widest indentation of the empty lines in front of a block scalar's first line with content
and of that line; a tab there is refused. -/
def widestIndent? (widest : Nat) : List (List Glyph) → Option Nat
  | [] => some widest
  | line :: lines =>
    let spaces := (line.takeWhile (·.char == ' ')).length
    match line.dropWhile (·.char == ' ') with
    | [] => some (max widest spaces)
    | g :: _ =>
      if g.char == '\t' then none
      else if isBreak g.char then widestIndent? (max widest spaces) lines
      else some (max widest spaces)

/-- Drops the leading spaces of a line, no more than a count. -/
def dropIndent : Nat → List Glyph → Nat × List Glyph
  | 0, line => (0, line)
  | n + 1, g :: line =>
    if g.char == ' ' then
      let (k, rest) := dropIndent n line
      (k + 1, rest)
    else (0, g :: line)
  | _ + 1, [] => (0, [])

/-- The lines of a block scalar at an indentation, with the lines after it. -/
def scanBlockLines (folded : Bool) (indent : Nat) (b : BlockText) :
    List (List Glyph) → Option (BlockText × List (List Glyph))
  | [] => some (b, [])
  | line :: lines =>
    match dropIndent indent line with
    | (_, []) => some (b, [])
    | (dropped, g :: rest) =>
      if isBreak g.char then
        scanBlockLines folded indent { b with emptyBreaks := g.char :: b.emptyBreaks } lines
      else if dropped < indent then
        if g.char == '\t' then none else some (b, line :: lines)
      else scanBlockLines folded indent (b.addLine folded (g :: rest)) lines

/-- The chomping mark, if one comes next. -/
def chomping? : List Glyph → Option (Chomping × List Glyph)
  | [] => none
  | g :: gs =>
    if g.char == '+' then some (.keep, gs)
    else if g.char == '-' then some (.strip, gs)
    else none

/-- The indentation mark, if a digit comes next; zero is refused by the second component. -/
def indentMark? : List Glyph → Option (Nat × List Glyph)
  | [] => none
  | g :: gs => if g.char.isDigit then some (g.char.toNat - '0'.toNat, gs) else none

/-- The marks behind the bar or angle of a block scalar, in either order. -/
def blockHeader (gs : List Glyph) : Chomping × Option Nat × List Glyph :=
  match chomping? gs with
  | some (chomping, gs) =>
    match indentMark? gs with
    | some (n, gs) => (chomping, some n, gs)
    | none => (chomping, none, gs)
  | none =>
    match indentMark? gs with
    | some (n, gs) =>
      match chomping? gs with
      | some (chomping, gs) => (chomping, some n, gs)
      | none => (.clip, some n, gs)
    | none => (.clip, none, gs)

/-- A block scalar, from behind its bar or angle; `parent` is the indentation it stands in. -/
def scanBlock (folded : Bool) (parent : Int) (gs : List Glyph) : Option (String × List Glyph) := do
  let (chomping, mark, gs) := blockHeader gs
  if mark == some 0 then failure
  let lines := Glyph.lines (← Glyph.finishLine? gs)
  let indent ← match mark with
    | some n => some (if parent ≥ 0 then parent.toNat + n else n)
    | none => (widestIndent? 0 lines).map fun widest => max (max widest (parent + 1).toNat) 1
  let (text, rest) ← scanBlockLines folded indent {} lines
  some (text.finish chomping, rest.flatten)

end EventFlow.Yaml

import EventFlow.Document.Basic
import EventFlow.Document.Json.Writer
import EventFlow.Yaml.Char
import EventFlow.Yaml.Scalar

/-!
# Writing YAML

Documents in block style: two blanks a level, lists under a key not indented, empty lists and
tables in brackets, lines never folded. A text is written without quotes where it reads back as
itself, as a literal block when it has a line feed and a block can hold it, between single quotes
when only its meaning or an indicator stands against the plain form, and between double quotes
with escapes otherwise (`styleOf`). A key on several lines or longer than 128 bytes gets a line of
its own after a question mark.

Text goes onto a `Page`, which remembers how far the current line has come.
-/

namespace EventFlow.Yaml

/-! ### The page -/

/-- Written text together with what decides the next blank or line break. -/
structure Page where
  text : String := ""
  /-- How many characters the current line has. -/
  column : Nat := 0
  /-- Whether the last thing written was a blank that separates. -/
  spaced : Bool := true
  /-- Whether the current line holds nothing but indentation and indicators. -/
  fresh : Bool := true

namespace Page

/-- Writes characters into the current line. -/
def put (p : Page) (s : String) : Page :=
  { p with text := p.text ++ s, column := p.column + s.length }

/-- Ends the line with a character that breaks lines. -/
def breakWith (p : Page) (c : Char) : Page :=
  { p with text := p.text.push c, column := 0 }

/-- Moves to a column of a line that holds nothing yet. -/
def indentTo (p : Page) (n : Nat) : Page :=
  let p := if !p.fresh || p.column > n || (p.column == n && !p.spaced) then p.breakWith '\n' else p
  { p.put (String.ofList (List.replicate (n - p.column) ' ')) with spaced := true, fresh := true }

/-- Writes an indicator, with a blank in front where one is needed. -/
def indicator (p : Page) (s : String) (needsBlank keepsFresh : Bool) : Page :=
  let p := if needsBlank && !p.spaced then p.put " " else p
  { p.put s with spaced := false, fresh := p.fresh && keepsFresh }

end Page

/-! ### Styles -/

/-- The ways to write a text. -/
inductive Style where
  | plain
  | single
  | double
  | literal
  deriving DecidableEq, Repr

/-- Characters that mean something at the start of a plain scalar. -/
def isLeadingIndicator (c : Char) : Bool :=
  "#,[]\x7b\x7d&*!|>'\"%@`".toList.contains c

/-- A colon in front of a blank, or a number sign behind one, after the first character. -/
def hasInnerIndicator (previous : Char) : List Char → Bool
  | [] => false
  | c :: cs =>
    (c == ':' && spacingAhead cs) || (c == '#' && spacingAhead [previous])
      || hasInnerIndicator c cs

/-- Whether an indicator forbids the plain form. -/
def hasIndicator : List Char → Bool
  | [] => false
  | c :: cs =>
    isLeadingIndicator c || ((c == '?' || c == ':' || c == '-') && spacingAhead cs)
      || "---".toList.isPrefixOf (c :: cs) || "...".toList.isPrefixOf (c :: cs)
      || hasInnerIndicator c cs

/-- Whether a character of the first kind stands directly before one of the second. -/
def hasPair (p q : Char → Bool) : List Char → Bool
  | a :: b :: cs => (p a && q b) || hasPair p q (b :: cs)
  | _ => false

/-- What the characters of a text allow. -/
structure Shape where
  multiline : Bool
  plain : Bool
  single : Bool
  block : Bool

/-- What the characters of a text allow. A text that starts or ends with a blank or a break is not
plain, one with a blank before a break or with a character that must be escaped is only written
between double quotes, and a break before a blank rules out single quotes. -/
def shapeOf (cs : List Char) : Shape :=
  let isSpace (c : Char) : Bool := c == ' '
  let edge := cs.head?.any (fun c => isSpace c || isBreak c)
    || cs.getLast?.any (fun c => isSpace c || isBreak c)
  let multiline := cs.any isBreak
  let breakSpace := hasPair isBreak isSpace cs
  let hard := hasPair isSpace isBreak cs || cs.any (fun c => !isPlainChar c)
  { multiline
    plain := !(edge || multiline || breakSpace || hard || hasIndicator cs)
    single := !(breakSpace || hard)
    block := !(hard || cs.getLast?.any isSpace) }

/-- The style of a text; a `key` is one that stands in front of its colon on the same line. -/
def styleOf (s : String) (key : Bool) : Style :=
  let shape := shapeOf s.toList
  let wanted : Style :=
    if key && shape.multiline then .double
    else if s.toList.contains '\n' then .literal
    else if readsAsText s then .plain
    else .single
  match wanted with
  | .plain => if shape.plain then .plain else if shape.single then .single else .double
  | .single => if shape.single then .single else .double
  | .literal => if shape.block && !key then .literal else .double
  | .double => .double

/-! ### Scalars -/

/-- The digits of a number in base sixteen, capital letters, in a fixed count of places. -/
def hexPlaces (places n : Nat) : List Char :=
  let ds := (Nat.toDigits 16 n).map Char.toUpper
  List.replicate (places - ds.length) '0' ++ ds

/-- How a character is written between double quotes. -/
def escapeChar (c : Char) : List Char :=
  if isPlainChar c && !isBreak c && c != '"' && c != '\\' then [c]
  else match c.toNat with
    | 0x00 => ['\\', '0']
    | 0x07 => ['\\', 'a']
    | 0x08 => ['\\', 'b']
    | 0x09 => ['\\', 't']
    | 0x0A => ['\\', 'n']
    | 0x0B => ['\\', 'v']
    | 0x0C => ['\\', 'f']
    | 0x0D => ['\\', 'r']
    | 0x1B => ['\\', 'e']
    | 0x22 => ['\\', '"']
    | 0x5C => ['\\', '\\']
    | 0x85 => ['\\', 'N']
    | 0x2028 => ['\\', 'L']
    | 0x2029 => ['\\', 'P']
    | n =>
      if n ≤ 0xFF then '\\' :: 'x' :: hexPlaces 2 n
      else if n ≤ 0xFFFF then '\\' :: 'u' :: hexPlaces 4 n
      else '\\' :: 'U' :: hexPlaces 8 n

/-- Characters of a text that may run over several lines: after a break the next character waits
for the indentation, and a lone line feed between lines is written twice. -/
def writeLines (indent : Nat) (quote : Bool) : Bool → List Char → Page → Page
  | broken, [], p => if broken && quote then p.indentTo indent else p
  | broken, c :: cs, p =>
    if isBreak c then
      let p := if !broken && c == '\n' then p.breakWith '\n' else p
      writeLines indent quote true cs { p.breakWith c with fresh := true }
    else
      let p := if broken then p.indentTo indent else p
      let p := if quote && c == '\'' then p.put "'" else p
      writeLines indent quote false cs { p.put c.toString with fresh := false }

/-- The lines of a literal block. -/
def writeBlock (indent : Nat) : Bool → List Char → Page → Page
  | _, [], p => p
  | broken, c :: cs, p =>
    if isBreak c then writeBlock indent true cs { p.breakWith c with fresh := true }
    else
      let p := if broken then p.indentTo indent else p
      writeBlock indent false cs { p.put c.toString with fresh := false }

/-- The marks behind the bar of a literal block: the indentation when the text starts with a blank
or a break, and what becomes of the breaks at its end. -/
def blockMarks (cs : List Char) : List String :=
  let indentation := if cs.head?.any (fun c => c == ' ' || isBreak c) then ["2"] else []
  let ending := match cs.reverse with
    | [] => ["-"]
    | c :: rest =>
      if !isBreak c then ["-"]
      else match rest with
        | [] => ["+"]
        | d :: _ => if isBreak d then ["+"] else []
  indentation ++ ending

/-- Writes a text in a style, its further lines at an indentation. -/
def writeStyled (style : Style) (indent : Nat) (s : String) (p : Page) : Page :=
  match style with
  | .plain =>
    let p := if !p.spaced && s != "" then p.put " " else p
    { writeLines indent false false s.toList p with spaced := false, fresh := false }
  | .single =>
    let p := writeLines indent true false s.toList (p.indicator "'" true false)
    { p.indicator "'" false false with spaced := false, fresh := false }
  | .double =>
    let p := (p.indicator "\"" true false).put (String.ofList (s.toList.flatMap escapeChar))
    { p.indicator "\"" false false with spaced := false, fresh := false }
  | .literal =>
    let p := p.indicator "|" true false
    let p := (blockMarks s.toList).foldl (fun p mark => p.indicator mark false false) p
    writeBlock indent true s.toList { p.breakWith '\n' with spaced := true, fresh := true }

/-- A floating-point number. -/
def floatText (x : Decimal.Binary64) : String :=
  if x.isFinite then x.text
  else if x.fractionField != 0 then ".nan"
  else if x.isNegative then "-.inf" else ".inf"

/-! ### Documents -/

/-- Whether a key stands in front of its colon on the same line. -/
def isSimpleKey (key : String) : Bool :=
  !(key.toList.any isBreak) && key.utf8ByteSize ≤ 128

mutual

/-- Writes a document. `indent` is the column of the surrounding lines, none at the outermost
level; `underKey` says that it is the value of a table's field. -/
def writeNode (indent : Option Nat) (underKey : Bool) : Document → Page → Page
  | .null, p => writeStyled .plain 0 "null" p
  | .bool b, p => writeStyled .plain 0 (if b then "true" else "false") p
  | .int n, p => writeStyled .plain 0 (String.ofList (Decimal.intDigits n)) p
  | .float x, p => writeStyled .plain 0 (floatText x) p
  | .text s, p => writeStyled (styleOf s false) ((indent.map (· + 2)).getD 2) s p
  | .list [], p => (p.indicator "[" true false).put "]"
  | .list (item :: items), p =>
    let column := match indent with
      | none => 0
      | some n => if underKey && !p.fresh then n else n + 2
    writeItems column (item :: items) p
  | .table [], p => (p.indicator "\x7b" true false).put "\x7d"
  | .table (field :: fields), p =>
    writeFields ((indent.map (· + 2)).getD 0) (field :: fields) p

/-- Writes the items of a list at a column. -/
def writeItems (column : Nat) : List Document → Page → Page
  | [], p => p
  | item :: items, p =>
    let p := (p.indentTo column).indicator "-" true true
    writeItems column items (writeNode (some column) false item p)

/-- Writes the fields of a table at a column. -/
def writeFields (column : Nat) : List (String × Document) → Page → Page
  | [], p => p
  | (key, value) :: fields, p =>
    let p := p.indentTo column
    let p :=
      if isSimpleKey key then
        (writeStyled (styleOf key true) (column + 2) key p).indicator ":" false false
      else
        let p := writeStyled (styleOf key false) (column + 2) key (p.indicator "?" true true)
        (p.indentTo column).indicator ":" true true
    writeFields column fields (writeNode (some column) true value p)

end

/-- The text of a document. -/
def write (d : Document) : String :=
  ((writeNode none false d {}).indentTo 0).text

end EventFlow.Yaml

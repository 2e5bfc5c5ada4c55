import EventFlow.Yaml.Token.Property
import EventFlow.Yaml.Token.Scalar

/-!
# Scanning a stream

Characters become tokens from left to right. The scan remembers the indentation of the open block
collections, how deep it is in flow collections, whether a key may start at the current place and,
for each flow level, the last place where a key may have started (`Candidate`). A candidate becomes
a key when a colon follows on the same line within 1024 characters.

The tokens are only ever added at the end: a candidate leaves a `mayBeKey` token, and `settle`
replaces it by the tokens of a key once the scan knows.
-/

namespace EventFlow.Yaml

/-- A place where a key may have started. -/
structure Candidate where
  /-- The number of the token left at the place. -/
  number : Nat
  line : Nat
  column : Nat
  index : Nat
  /-- Whether only a key can stand there. -/
  required : Bool

/-- The state of a scan. -/
structure Scan where
  /-- The tokens so far, last one first. -/
  tokens : List Token := []
  /-- The candidates that became keys, with whether a mapping starts there too. -/
  keys : List (Nat × Bool) := []
  /-- How many candidates there were. -/
  count : Nat := 0
  /-- The current candidate of the block context, then of each open flow collection, innermost
  first. -/
  candidates : List (Option Candidate) := [none]
  /-- The indentation of the innermost block collection, `-1` outside. -/
  indent : Int := -1
  /-- The indentations around it. -/
  indents : List Int := []
  keyAllowed : Bool := true

namespace Scan

/-- Whether the scan is inside a flow collection. -/
def inFlow (s : Scan) : Bool :=
  s.candidates.length > 1

/-- Adds a token. -/
def push (t : Token) (s : Scan) : Scan :=
  { s with tokens := t :: s.tokens }

/-! ### Candidates for keys -/

/-- Gives up the candidates that are too far behind a place; none of them may be required. -/
def dropStale? (g : Glyph) (s : Scan) : Option Scan := do
  let keep (c : Option Candidate) : Option (Option Candidate) :=
    match c with
    | none => some none
    | some c =>
      if c.line < g.line || c.index + 1024 < g.index then
        if c.required then none else some none
      else some (some c)
  return { s with candidates := ← s.candidates.mapM keep }

/-- Gives up the current candidate, which may not be required. -/
def dropCandidate? (s : Scan) : Option Scan :=
  match s.candidates with
  | some c :: rest => if c.required then none else some { s with candidates := none :: rest }
  | _ => some s

/-- Makes a place the current candidate, if a key may start there. -/
def addCandidate? (g : Glyph) (s : Scan) : Option Scan := do
  if s.keyAllowed then
    let required := !s.inFlow && s.indent == (g.column : Int)
    let s ← s.dropCandidate?
    let candidate : Candidate := ⟨s.count, g.line, g.column, g.index, required⟩
    return { s.push (.mayBeKey s.count) with
      count := s.count + 1
      candidates := some candidate :: s.candidates.tail }
  else return s

/-! ### Indentation -/

/-- Closes the block collections that are indented by more than a column. -/
def unroll (column : Int) (s : Scan) : Scan :=
  if s.inFlow then s
  else
    let rec close (indent : Int) (indents : List Int) (s : Scan) : Scan :=
      if indent > column then
        match indents with
        | [] => { s.push .blockEnd with indent := -1, indents := [] }
        | outer :: rest => close outer rest (s.push .blockEnd)
      else { s with indent, indents }
    close s.indent s.indents s

/-- Whether a block collection opens at a column. -/
def opensAt (column : Nat) (s : Scan) : Bool :=
  !s.inFlow && s.indent < (column : Int)

/-- Makes a column the current indentation. -/
def indentAt (column : Nat) (s : Scan) : Scan :=
  { s with indent := column, indents := s.indent :: s.indents }

/-- Opens a block collection at a column, unless one is open there. -/
def roll (column : Nat) (t : Token) (s : Scan) : Scan :=
  if s.opensAt column then (s.indentAt column).push t else s

/-! ### Indicators -/

/-- The start of a flow collection. -/
def openFlow? (g : Glyph) (t : Token) (s : Scan) : Option Scan := do
  let s ← s.addCandidate? g
  return { s.push t with candidates := none :: s.candidates, keyAllowed := true }

/-- The end of a flow collection. -/
def closeFlow? (t : Token) (s : Scan) : Option Scan := do
  let s ← s.dropCandidate?
  let candidates := if s.inFlow then s.candidates.tail else s.candidates
  return { s.push t with candidates, keyAllowed := false }

/-- A hyphen in front of a list's item. -/
def blockEntry? (g : Glyph) (s : Scan) : Option Scan := do
  if !s.inFlow && !s.keyAllowed then failure
  let s ← (s.roll g.column .blockSequenceStart).dropCandidate?
  return { s.push .blockEntry with keyAllowed := true }

/-- A question mark in front of a key. -/
def key? (g : Glyph) (s : Scan) : Option Scan := do
  if !s.inFlow && !s.keyAllowed then failure
  let s ← (s.roll g.column .blockMappingStart).dropCandidate?
  return { s.push .key with keyAllowed := !s.inFlow }

/-- A colon in front of a value: the current candidate becomes a key. -/
def value? (g : Glyph) (s : Scan) : Option Scan :=
  match s.candidates with
  | some c :: rest =>
    let opens := s.opensAt c.column
    let s := if opens then s.indentAt c.column else s
    some { s.push .value with
      keys := (c.number, opens) :: s.keys
      candidates := none :: rest
      keyAllowed := false }
  | _ =>
    if !s.inFlow && !s.keyAllowed then none
    else
      let s := s.roll g.column .blockMappingStart
      some { s.push .value with keyAllowed := !s.inFlow }

/-- The end of all block collections, in front of what stands between documents. -/
def closeAll? (s : Scan) : Option Scan := do
  let s ← (s.unroll (-1)).dropCandidate?
  return { s with keyAllowed := false }

/-- A token that may start a key and after which none may. -/
def content? (g : Glyph) (t : Token) (s : Scan) : Option Scan := do
  return { (← s.addCandidate? g).push t with keyAllowed := false }

/-! ### The scan -/

/-- Skips blanks, comments and line breaks in front of a token. Tabs are blanks except where a
block key may start; after a line break in block context one may. -/
def skipBlank (inFlow : Bool) (keyAllowed inComment : Bool) : List Glyph → Bool × List Glyph
  | [] => (keyAllowed, [])
  | g :: gs =>
    if isBreak g.char then skipBlank inFlow (keyAllowed || !inFlow) false gs
    else if inComment then skipBlank inFlow keyAllowed true gs
    else if g.char == ' ' || (g.char == '\t' && (inFlow || !keyAllowed)) then
      skipBlank inFlow keyAllowed false gs
    else if g.char == '#' then skipBlank inFlow keyAllowed true gs
    else (keyAllowed, g :: gs)

/-- Whether a plain scalar can start here. -/
def startsPlain (inFlow : Bool) (g : Glyph) (gs : List Glyph) : Bool :=
  !("-?:,[]\x7b\x7d#&*!|>'\"%@`".toList.contains g.char || Glyph.atSpacing [g])
    || (g.char == '-' && !Glyph.atOneOf " \t" gs)
    || (!inFlow && (g.char == '?' || g.char == ':') && !Glyph.atSpacing gs)

/-- A scalar, an alias, an anchor or a tag at the place of the first character. -/
def scanContent (g : Glyph) (gs : List Glyph) (s : Scan) : Option (Scan × List Glyph) := do
  match g.char with
  | '*' =>
    let (name, rest) ← scanAnchor gs
    return (← s.content? g (.aliasOf name), rest)
  | '&' =>
    let (name, rest) ← scanAnchor gs
    return (← s.content? g (.anchor name), rest)
  | '!' =>
    let (tag, rest) ← scanTag s.inFlow (g :: gs)
    return (← s.content? g tag, rest)
  | '\'' =>
    let (text, rest) ← scanSingle [] .nothing gs
    return (← s.content? g (.scalar text false), rest)
  | '"' =>
    let (text, rest) ← scanDouble [] .nothing .nothing gs
    return (← s.content? g (.scalar text false), rest)
  | _ =>
    if !s.inFlow && (g.char == '|' || g.char == '>') then
      let s ← s.dropCandidate?
      let (text, rest) ← scanBlock (g.char == '>') s.indent gs
      return ({ s.push (.scalar text false) with keyAllowed := true }, rest)
    else if startsPlain s.inFlow g gs then
      let scan ← scanPlain s.inFlow (s.indent + 1) [] .nothing (g :: gs)
      let s ← s.content? g (.scalar scan.text true)
      return ({ s with keyAllowed := scan.broken }, scan.rest)
    else failure

/-- The token at the place of the first character. -/
def scanToken (g : Glyph) (gs : List Glyph) (s : Scan) : Option (Scan × List Glyph) := do
  if g.column == 0 && g.char == '%' then
    let s ← s.closeAll?
    let (directive, rest) ← scanDirective gs
    return (s.push directive, rest)
  else if Glyph.atDocumentMark '-' (g :: gs) then
    return ((← s.closeAll?).push .documentStart, gs.drop 2)
  else if Glyph.atDocumentMark '.' (g :: gs) then
    return ((← s.closeAll?).push .documentEnd, gs.drop 2)
  else match g.char with
    | '[' => return (← s.openFlow? g .flowSequenceStart, gs)
    | '\x7b' => return (← s.openFlow? g .flowMappingStart, gs)
    | ']' => return (← s.closeFlow? .flowSequenceEnd, gs)
    | '\x7d' => return (← s.closeFlow? .flowMappingEnd, gs)
    | ',' => return ({ (← s.dropCandidate?).push .flowEntry with keyAllowed := true }, gs)
    | _ =>
      if g.char == '-' && Glyph.atSpacing gs then return (← s.blockEntry? g, gs)
      else if g.char == '?' && (s.inFlow || Glyph.atSpacing gs) then return (← s.key? g, gs)
      else if g.char == ':' && (s.inFlow || Glyph.atSpacing gs) then return (← s.value? g, gs)
      else s.scanContent g gs

/-- Scans what is ahead. Every token takes at least one character, so a step for each character
and one for the end are enough. -/
def run : Nat → List Glyph → Scan → Option Scan
  | 0, _, _ => none
  | steps + 1, gs, s =>
    let (keyAllowed, gs) := skipBlank s.inFlow s.keyAllowed false gs
    let s := { s with keyAllowed }
    match gs with
    | [] => s.closeAll?
    | g :: gs => do
      let s ← s.dropStale? g
      let (s, rest) ← (s.unroll g.column).scanToken g gs
      run steps rest s

/-- The tokens in order, each candidate replaced by nothing or by the tokens of a key. -/
def settle (s : Scan) : List Token :=
  s.tokens.reverse.flatMap fun t =>
    match t with
    | .mayBeKey n =>
      match s.keys.find? (·.1 == n) with
      | none => []
      | some (_, true) => [.blockMappingStart, .key]
      | some (_, false) => [.key]
    | t => [t]

end Scan

/-- The tokens of a text, unless it is malformed. -/
def tokens? (text : String) : Option (List Token) := do
  let gs ← Glyph.ofText? text
  return (← Scan.run (gs.length + 1) gs {}).settle

end EventFlow.Yaml

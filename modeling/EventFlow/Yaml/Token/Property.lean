import EventFlow.Yaml.Glyph
import EventFlow.Yaml.Token
import EventFlow.Yaml.Token.Scalar

/-!
# Scanning names, tags and directives

Anchors and aliases are names. A tag is a handle with a suffix, where the handle may be the single
mark, a mark on both sides of a name or, for a tag written out between angles, empty. Directives
stand on lines of their own: the version of the format, and the replacement of a handle.

Each scan takes the characters ahead and gives its result with the characters after it, or nothing
if they are malformed.
-/

namespace EventFlow.Yaml

/-- A name, as far as it goes. -/
def scanName (gs : List Glyph) : String × List Glyph :=
  (String.ofList (Glyph.chars (gs.takeWhile (isNameChar ·.char))),
    gs.dropWhile (isNameChar ·.char))

/-- The name of an anchor or an alias. -/
def scanAnchor (gs : List Glyph) : Option (String × List Glyph) :=
  let (name, rest) := scanName gs
  if name != "" && (Glyph.atSpacing rest || Glyph.atOneOf "?:,]\x7d%@`" rest) then
    some (name, rest)
  else none

/-! ### Tags -/

/-- The characters of a tag; commas and brackets only where it is `written` out. -/
def isTagChar (written : Bool) (c : Char) : Bool :=
  isNameChar c || ";/?:@&=+$.!~*'()%".toList.contains c
    || (written && (c == ',' || c == '[' || c == ']'))

/-- How many bytes the encoding of a character has, by its first byte. -/
def encodedWidth (first : Nat) : Nat :=
  if first < 0x80 then 1
  else if first < 0xC0 then 0
  else if first < 0xE0 then 2
  else if first < 0xF0 then 3
  else if first < 0xF8 then 4
  else 0

/-- The bytes of a tag's characters, where a percent sign stands in front of two digits of a byte.
`missing` is how many bytes of an encoded character are still to come as such digits. -/
def tagBytes? (missing : Nat) : List Char → Option (List UInt8)
  | [] => if missing == 0 then some [] else none
  | '%' :: a :: b :: cs => do
    let n := 16 * (← hexValue? a) + (← hexValue? b)
    if missing == 0 then
      let width := encodedWidth n
      if width == 0 then failure
      return n.toUInt8 :: (← tagBytes? (width - 1) cs)
    else
      if n / 64 != 2 then failure
      return n.toUInt8 :: (← tagBytes? (missing - 1) cs)
  | c :: cs =>
    if missing == 0 && c != '%' then (tagBytes? 0 cs).map (c.toNat.toUInt8 :: ·) else none

/-- The text of a tag's characters. Bytes that encode no character stand for the replacement
character. -/
def tagText? (cs : List Char) : Option String :=
  (tagBytes? 0 cs).map fun bytes => (String.fromUTF8? ⟨bytes.toArray⟩).getD "\ufffd"

/-- The rest of a tag. -/
def scanTagText (written : Bool) (gs : List Glyph) : Option (String × List Glyph) :=
  (tagText? (Glyph.chars (gs.takeWhile (isTagChar written ·.char)))).map fun s =>
    (s, gs.dropWhile (isTagChar written ·.char))

/-- The handle in front of a tag, from its first mark on, and whether it ends with a mark too. -/
def scanHandle : List Glyph → Option (String × Bool × List Glyph)
  | [] => none
  | g :: gs =>
    if g.char != '!' then none
    else
      let (name, rest) := scanName gs
      match rest with
      | h :: tail =>
        if h.char == '!' then some ("!" ++ name ++ "!", true, tail)
        else some ("!" ++ name, false, h :: tail)
      | [] => some ("!" ++ name, false, [])

/-- A tag, from its first mark on, as a handle and a suffix. -/
def scanTag (inFlow : Bool) (gs : List Glyph) : Option (Token × List Glyph) := do
  let (token, rest) : Token × List Glyph ←
    if Glyph.atOneOf "<" (gs.drop 1) then do
      let (suffix, rest) ← scanTagText true (gs.drop 2)
      if suffix == "" || !Glyph.atOneOf ">" rest then failure
      pure (Token.tag "" suffix, rest.drop 1)
    else do
      let (handle, closed, rest) ← scanHandle gs
      let (suffix, rest) ← scanTagText false rest
      if closed then
        if suffix == "" then failure
        pure (Token.tag handle suffix, rest)
      else
        let whole := (handle.drop 1).toString ++ suffix
        pure (if whole == "" then Token.tag "" "!" else Token.tag "!" whole, rest)
  if Glyph.atSpacing rest || (inFlow && Glyph.atOneOf "," rest) then some (token, rest) else none

/-! ### Directives -/

/-- A number of at most nine digits. -/
def scanVersionNumber (gs : List Glyph) : Option (Nat × List Glyph) :=
  let digits := Glyph.chars (gs.takeWhile (·.char.isDigit))
  if digits.isEmpty || digits.length > 9 then none
  else some (digits.foldl (fun n c => 10 * n + (c.toNat - '0'.toNat)) 0,
    gs.dropWhile (·.char.isDigit))

/-- A directive, from behind its percent sign to the end of its line. -/
def scanDirective (gs : List Glyph) : Option (Token × List Glyph) := do
  let (name, rest) := scanName gs
  if !Glyph.atSpacing rest then failure
  if name == "YAML" then
    let (major, rest) ← scanVersionNumber (Glyph.dropSpacing rest)
    if !Glyph.atOneOf "." rest then failure
    let (minor, rest) ← scanVersionNumber (rest.drop 1)
    return (.version major minor, ← Glyph.finishLine? rest)
  else if name == "TAG" then
    let (handle, closed, rest) ← scanHandle (Glyph.dropSpacing rest)
    if !closed && handle != "!" then failure
    if !Glyph.atOneOf " \t" rest then failure
    let (replacement, rest) ← scanTagText true (Glyph.dropSpacing rest)
    if replacement == "" || !Glyph.atSpacing rest then failure
    return (.tagHandle handle replacement, ← Glyph.finishLine? rest)
  else failure

end EventFlow.Yaml

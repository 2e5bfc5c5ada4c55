/-!
# The characters of YAML

The character classes that the reader and the writer of YAML share: line breaks, of which there
are five, blanks, and the characters that may stand in a stream or be written as they are.
-/

namespace EventFlow.Yaml

/-- Line breaks: carriage return, line feed, next line, line separator, paragraph separator. -/
def isBreak (c : Char) : Bool :=
  c == '\n' || c == '\r' || c == '\u0085' || c == '\u2028' || c == '\u2029'

/-- The blanks that separate tokens in a line. -/
def isSpacing (c : Char) : Bool :=
  c == ' ' || c == '\t'

/-- Whether a text, or a line, has nothing more to offer: it ends, or a blank, a break or a null
character follows. -/
def spacingAhead : List Char → Bool
  | [] => true
  | c :: _ => isSpacing c || isBreak c || c == '\x00'

/-- The characters that may stand in a stream. -/
def isStreamChar (c : Char) : Bool :=
  let n := c.toNat
  n == 0x09 || n == 0x0A || n == 0x0D || (0x20 ≤ n && n ≤ 0x7E) || n == 0x85
    || (0xA0 ≤ n && n ≤ 0xD7FF) || (0xE000 ≤ n && n ≤ 0xFFFD) || 0x10000 ≤ n

/-- The characters that are written as they are; tabs, carriage returns and the byte order mark
are not. -/
def isPlainChar (c : Char) : Bool :=
  let n := c.toNat
  n == 0x0A || (0x20 ≤ n && n ≤ 0x7E) || (0xA0 ≤ n && n ≤ 0xD7FF)
    || (0xE000 ≤ n && n ≤ 0xFFFD && n != 0xFEFF) || 0x10000 ≤ n

/-- Letters, digits, the hyphen and the underscore: the characters of names. -/
def isNameChar (c : Char) : Bool :=
  c.isAlphanum || c == '-' || c == '_'

end EventFlow.Yaml

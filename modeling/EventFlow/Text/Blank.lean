/-!
# Blank characters

A character is *blank* when it has the Unicode property `White_Space`; `trim` cuts the blank
characters off both ends of a text and keeps those in between. The class is wider than
`Char.isWhitespace`: the no-break space, the ideographic space and the line and paragraph separators
belong to it, the zero-width space does not.
-/

namespace EventFlow.Text

/-- The characters with the property `White_Space`. -/
def isBlank (c : Char) : Bool :=
  let n := c.toNat
  (9 ≤ n && n ≤ 13) || n == 0x20 || n == 0x85 || n == 0xA0 || n == 0x1680
    || (0x2000 ≤ n && n ≤ 0x200A) || n == 0x2028 || n == 0x2029 || n == 0x202F || n == 0x205F
    || n == 0x3000

/-- Cuts the blank characters off both ends. -/
def trimChars (cs : List Char) : List Char :=
  ((cs.dropWhile isBlank).reverse.dropWhile isBlank).reverse

/-- Cuts the blank characters off both ends of a text. -/
def trim (s : String) : String :=
  String.ofList (trimChars s.toList)

/-- Whether a text holds nothing but blank characters; the empty text does. -/
def isBlankText (s : String) : Bool :=
  s.toList.all isBlank

end EventFlow.Text

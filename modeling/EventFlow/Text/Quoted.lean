import EventFlow.Text.Property

/-!
# Quoted texts

The form in which a text is shown between double quotes in log lines and in the display of typed
compositions: quotes and backslashes carry a backslash, the usual control characters their letter,
and every other character that does not print, or that would attach to the quote before it, its
code point in braces.
-/

namespace EventFlow.Text

/-- The digits of a number in base sixteen, small letters, no leading zero. -/
def hexDigits (n : Nat) : List Char :=
  Nat.toDigits 16 n

/-- A code point in braces. -/
def escapedCodePoint (c : Char) : List Char :=
  ['\\', 'u', '\x7b'] ++ hexDigits c.toNat ++ ['\x7d']

/-- How one character is shown between double quotes. -/
def quotedChar (c : Char) : List Char :=
  if c == '"' then ['\\', '"']
  else if c == '\\' then ['\\', '\\']
  else if c == '\x00' then ['\\', '0']
  else if c == '\t' then ['\\', 't']
  else if c == '\r' then ['\\', 'r']
  else if c == '\n' then ['\\', 'n']
  else if extendsGrapheme c then escapedCodePoint c
  else if isPrintable c then [c]
  else escapedCodePoint c

/-- A text between double quotes. -/
def quoted (s : String) : String :=
  String.ofList ('"' :: s.toList.flatMap quotedChar ++ ['"'])

end EventFlow.Text

import EventFlow.Decimal.Text
import EventFlow.Document.Basic

/-!
# Writing JSON

The indented form, two blanks a level and a final line break (`Json.write`), and the form on one
line without blanks (`Json.writeCompact`). Quotes, backslashes and the control characters are
escaped; every other character stands for itself. A number that is no number, or infinite, is
written as null.
-/

namespace EventFlow.Json

/-- The two last digits of a control character's escape. -/
def controlDigits (n : Nat) : List Char :=
  [Nat.digitChar (n / 16), Nat.digitChar (n % 16)]

/-- How a character is written between quotes. -/
def escapeChar (c : Char) : List Char :=
  if c == '"' then ['\\', '"']
  else if c == '\\' then ['\\', '\\']
  else if c == '\x08' then ['\\', 'b']
  else if c == '\x0c' then ['\\', 'f']
  else if c == '\n' then ['\\', 'n']
  else if c == '\r' then ['\\', 'r']
  else if c == '\t' then ['\\', 't']
  else if c.toNat < 0x20 then ['\\', 'u', '0', '0'] ++ controlDigits c.toNat
  else [c]

/-- A text between quotes. -/
def writeText (s : String) : String :=
  String.ofList ('"' :: s.toList.flatMap escapeChar ++ ['"'])

/-- A floating-point number. -/
def writeFloat (x : Decimal.Binary64) : String :=
  if x.isFinite then x.text else "null"

/-- The line break and the blanks in front of an item at a level. -/
def newline (level : Nat) : String :=
  String.ofList ('\n' :: List.replicate (2 * level) ' ')

mutual

/-- The indented form of a document at a level. -/
def writeAt (level : Nat) : Document → String
  | .null => "null"
  | .bool true => "true"
  | .bool false => "false"
  | .int n => String.ofList (Decimal.intDigits n)
  | .float x => writeFloat x
  | .text s => writeText s
  | .list [] => "[]"
  | .list (item :: items) =>
    "[" ++ newline (level + 1) ++ writeAt (level + 1) item ++ writeItems (level + 1) items
      ++ newline level ++ "]"
  | .table [] => "\x7b\x7d"
  | .table ((key, value) :: fields) =>
    "\x7b" ++ newline (level + 1) ++ writeText key ++ ": " ++ writeAt (level + 1) value
      ++ writeFields (level + 1) fields ++ newline level ++ "\x7d"

/-- The items of a list after the first. -/
def writeItems (level : Nat) : List Document → String
  | [] => ""
  | item :: items => "," ++ newline level ++ writeAt level item ++ writeItems level items

/-- The fields of a table after the first. -/
def writeFields (level : Nat) : List (String × Document) → String
  | [] => ""
  | (key, value) :: fields =>
    "," ++ newline level ++ writeText key ++ ": " ++ writeAt level value
      ++ writeFields level fields

end

/-- The indented form of a document with a final line break. -/
def write (d : Document) : String :=
  writeAt 0 d ++ "\n"

mutual

/-- The form of a document on one line. -/
def writeCompact : Document → String
  | .null => "null"
  | .bool true => "true"
  | .bool false => "false"
  | .int n => String.ofList (Decimal.intDigits n)
  | .float x => writeFloat x
  | .text s => writeText s
  | .list [] => "[]"
  | .list (item :: items) => "[" ++ writeCompact item ++ writeCompactItems items ++ "]"
  | .table [] => "\x7b\x7d"
  | .table ((key, value) :: fields) =>
    "\x7b" ++ writeText key ++ ":" ++ writeCompact value ++ writeCompactFields fields ++ "\x7d"

/-- The items of a list after the first, on one line. -/
def writeCompactItems : List Document → String
  | [] => ""
  | item :: items => "," ++ writeCompact item ++ writeCompactItems items

/-- The fields of a table after the first, on one line. -/
def writeCompactFields : List (String × Document) → String
  | [] => ""
  | (key, value) :: fields =>
    "," ++ writeText key ++ ":" ++ writeCompact value ++ writeCompactFields fields

end

end EventFlow.Json

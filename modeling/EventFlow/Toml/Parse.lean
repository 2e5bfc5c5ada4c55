/-!
# Steps of reading TOML

A step takes characters off the front of the text or fails. Some failures have a reason to tell and
some have none: a value that is missing at the very end of the text, a carriage return without its
line feed where a line should start, and a line of comment that holds a control character.
-/

namespace EventFlow.Toml

/-- Why a text is no TOML. -/
inductive Error where
  | missingValue
  | strayReturn
  | brokenComment
  | invalid (what : String)
  | duplicate (key : String)
  | tooDeep
  deriving DecidableEq, Repr

namespace Error

/-- The reason that is told, if any. -/
def reason : Error → String
  | missingValue => ""
  | strayReturn => ""
  | brokenComment => ""
  | invalid what => "invalid " ++ what
  | duplicate key => "duplicate key " ++ key
  | tooDeep => "nested too deeply"

/-- The report of a failure, ended by a line break. -/
def report (e : Error) : String :=
  "TOML parse error\n" ++ e.reason ++ "\n"

end Error

/-- A step of reading. -/
abbrev Parse := StateT (List Char) (Except Error)

namespace Parse

/-- The next character. -/
def peek : Parse (Option Char) := do
  return (← get).head?

/-- Goes past a number of characters. -/
def skip (n : Nat) : Parse Unit :=
  modify (·.drop n)

/-- The longest run of characters of a class. -/
def takeWhile (p : Char → Bool) : Parse (List Char) := do
  let cs ← get
  set (cs.dropWhile p)
  return cs.takeWhile p

/-- Goes past the next characters if they are the given ones. -/
def accept (s : String) : Parse Bool := do
  let cs ← get
  if s.toList.isPrefixOf cs then
    set (cs.drop s.length)
    return true
  else return false

/-- Goes past the given characters. -/
def expect (s what : String) : Parse Unit := do
  if !(← accept s) then throw (.invalid what)

end Parse

/-! ### Characters -/

/-- Blanks in a line. -/
def isBlank (c : Char) : Bool :=
  c == ' ' || c == '\t'

/-- The characters of keys without quotes. -/
def isBareKeyChar (c : Char) : Bool :=
  c.isAlphanum || c == '_' || c == '-'

/-- The characters that may stand in a comment, or in a text apart from its quotes and escapes. -/
def isTextChar (c : Char) : Bool :=
  c == '\t' || (0x20 ≤ c.toNat && c.toNat ≠ 0x7F)

/-- Goes past blanks. -/
def skipBlanks : Parse Unit := do
  let _ ← Parse.takeWhile isBlank

/-- Goes past a line break, if one is next. -/
def acceptNewline : Parse Bool := do
  if ← Parse.accept "\n" then return true else Parse.accept "\r\n"

/-- Goes past a comment, if one is next. -/
def skipComment : Parse Unit := do
  if (← Parse.peek) == some '#' then
    let _ ← Parse.takeWhile isTextChar

/-- Goes past the end of a line, or the end of the text. -/
def acceptLineEnd : Parse Bool := do
  if ← acceptNewline then return true else return (← get).isEmpty

/-- Goes past what may stand behind a key with its value or behind a header. -/
def finishLine : Parse Unit := do
  skipBlanks
  skipComment
  if !(← acceptLineEnd) then throw (.invalid "end of line")

end EventFlow.Toml

import EventFlow.Decimal.Text
import EventFlow.Document.Basic

/-!
# Reading JSON

A strict reader: one value with blanks around it, no comments, no trailing commas, control
characters in texts only as escapes, surrogate escapes only in pairs, and at most 127 lists and
tables inside one another. Of several fields with one key the last one counts.

A number without point and exponent is an integer when it fits into sixty-four bits. Every other
number is made of the leading digits that fit into sixty-four bits, scaled by one power of ten; a
number out of range is refused.
-/

namespace EventFlow.Json

/-- How many lists and tables may stand inside one another. -/
def depthLimit : Nat := 127

/-- Drops blanks. -/
def skipBlanks (cs : List Char) : List Char :=
  cs.dropWhile fun c => c == ' ' || c == '\t' || c == '\n' || c == '\r'

/-! ### Texts -/

/-- The value of a digit in base sixteen. -/
def hexValue? (c : Char) : Option Nat :=
  if c.isDigit then some (c.toNat - '0'.toNat)
  else if 'a' ≤ c && c ≤ 'f' then some (c.toNat - 'a'.toNat + 10)
  else if 'A' ≤ c && c ≤ 'F' then some (c.toNat - 'A'.toNat + 10)
  else none

/-- The four digits of an escape. -/
def hexQuad? : List Char → Option (Nat × List Char)
  | a :: b :: c :: d :: rest => do
    let n ← hexValue? a
    let m ← hexValue? b
    let l ← hexValue? c
    let k ← hexValue? d
    pure (((n * 16 + m) * 16 + l) * 16 + k, rest)
  | _ => none

/-- The character of an escape that starts with `\u`, the second half of a pair included. -/
def unicodeEscape? (cs : List Char) : Option (Char × List Char) := do
  let (high, rest) ← hexQuad? cs
  if 0xDC00 ≤ high && high ≤ 0xDFFF then none
  else if 0xD800 ≤ high && high ≤ 0xDBFF then
    match rest with
    | '\\' :: 'u' :: rest => do
      let (low, rest) ← hexQuad? rest
      if 0xDC00 ≤ low && low ≤ 0xDFFF then
        pure (Char.ofNat (0x10000 + (high - 0xD800) * 0x400 + (low - 0xDC00)), rest)
      else none
    | _ => none
  else pure (Char.ofNat high, rest)

/-- The character a one-letter escape stands for. -/
def letterEscape? : Char → Option Char
  | '"' => some '"'
  | '\\' => some '\\'
  | '/' => some '/'
  | 'b' => some '\x08'
  | 'f' => some '\x0c'
  | 'n' => some '\n'
  | 'r' => some '\r'
  | 't' => some '\t'
  | _ => none

/-- The rest of a text after its opening quote; `acc` holds the characters read, last first. -/
def readText : Nat → List Char → List Char → Option (String × List Char)
  | 0, _, _ => none
  | _ + 1, _, [] => none
  | _ + 1, acc, '"' :: rest => some (String.ofList acc.reverse, rest)
  | fuel + 1, acc, '\\' :: 'u' :: rest => do
    let (c, rest) ← unicodeEscape? rest
    readText fuel (c :: acc) rest
  | fuel + 1, acc, '\\' :: c :: rest => do
    let c ← letterEscape? c
    readText fuel (c :: acc) rest
  | fuel + 1, acc, c :: rest =>
    if c.toNat < 0x20 || c == '\\' then none else readText fuel (c :: acc) rest

/-! ### Numbers -/

/-- Takes digits while the number they form fits into sixty-four bits. -/
def takeDigits (n : Nat) : List Char → Nat × List Char
  | [] => (n, [])
  | c :: cs =>
    if c.isDigit then
      let m := 10 * n + (c.toNat - '0'.toNat)
      if m < Nat.pow 2 64 then takeDigits m cs else (n, c :: cs)
    else (n, c :: cs)

/-- The exponent of a number, at most `2 ^ 31 - 1`; `none` in the second place beyond that. -/
def readExponent (cs : List Char) : Option (Bool × Option Nat × List Char) :=
  let (negative, cs) : Bool × List Char :=
    match cs with
    | '+' :: rest => (false, rest)
    | '-' :: rest => (true, rest)
    | _ => (false, cs)
  let ds := cs.takeWhile Char.isDigit
  if ds.isEmpty then none
  else
    let n := Decimal.valueOfDigits ds
    some (negative, if n < Nat.pow 2 31 then some n else none, cs.dropWhile Char.isDigit)

/-- The number with digits `n`, shifted by `shift` places, and perhaps an exponent to follow. -/
def finishFloat (negative : Bool) (n : Nat) (shift : Int) (cs : List Char) :
    Option (Document × List Char) :=
  let made (x : Option Float) (rest : List Char) : Option (Document × List Char) :=
    x.map fun x => (.float (.ofFloat x), rest)
  match cs with
  | c :: rest =>
    if c == 'e' || c == 'E' then do
      let (down, exponent, rest) ← readExponent rest
      match exponent with
      | some e => made (Decimal.scaled? negative n (if down then shift - e else shift + e)) rest
      | none =>
        if n != 0 && !down then none
        else made (some (if negative then -0.0 else 0.0)) rest
    else made (Decimal.scaled? negative n shift) cs
  | [] => made (Decimal.scaled? negative n shift) []

/-- The number with digits `n` before the point, `shift` of them left out, and what follows. -/
def finishNumber (negative : Bool) (n : Nat) (shift : Nat) (cs : List Char) :
    Option (Document × List Char) :=
  match cs with
  | '.' :: rest =>
    if (rest.takeWhile Char.isDigit).isEmpty then none
    else
      let (m, rest') := takeDigits n rest
      finishFloat negative m ((shift : Int) - (rest.length - rest'.length : Nat))
        (rest'.dropWhile Char.isDigit)
  | c :: _ =>
    if c == 'e' || c == 'E' || shift != 0 then finishFloat negative n shift cs
    else whole cs
  | [] => if shift != 0 then finishFloat negative n shift cs else whole cs
where
  /-- An integer; negative zero and what lies below `-2 ^ 63` are floating-point. -/
  whole (cs : List Char) : Option (Document × List Char) :=
    if !negative then some (.int n, cs)
    else if n == 0 || n > Nat.pow 2 63 then
      some (.float (.ofFloat (-n.toFloat)), cs)
    else some (.int (-n), cs)

/-- A number after its sign. -/
def readNumber (negative : Bool) : List Char → Option (Document × List Char)
  | '0' :: c :: rest => if c.isDigit then none else finishNumber negative 0 0 (c :: rest)
  | ['0'] => finishNumber negative 0 0 []
  | c :: cs =>
    if c.isDigit then
      let (n, rest) := takeDigits 0 (c :: cs)
      -- digits that no longer fit only shift the number
      let more := rest.takeWhile Char.isDigit
      finishNumber negative n more.length (rest.dropWhile Char.isDigit)
    else none
  | [] => none

/-! ### Values -/

/-- Strips a fixed word. -/
def word? (w : String) (cs : List Char) : Option (List Char) :=
  if w.toList.isPrefixOf cs then some (cs.drop w.toList.length) else none

mutual

/-- A value, with `depth` more lists and tables allowed. -/
def readValue : Nat → Nat → List Char → Option (Document × List Char)
  | 0, _, _ => none
  | fuel + 1, depth, cs =>
    match skipBlanks cs with
    | 'n' :: rest => (word? "ull" rest).map (.null, ·)
    | 't' :: rest => (word? "rue" rest).map (.bool true, ·)
    | 'f' :: rest => (word? "alse" rest).map (.bool false, ·)
    | '"' :: rest => (readText (rest.length + 1) [] rest).map fun (s, rest) => (.text s, rest)
    | '[' :: rest =>
      match depth with
      | 0 => none
      | depth + 1 =>
        match skipBlanks rest with
        | ']' :: rest => some (.list [], rest)
        | rest => (readItems fuel depth rest).map fun (items, rest) => (.list items, rest)
    | '\x7b' :: rest =>
      match depth with
      | 0 => none
      | depth + 1 =>
        match skipBlanks rest with
        | '\x7d' :: rest => some (.table [], rest)
        | rest => (readFields fuel depth [] rest).map fun (fields, rest) => (.table fields, rest)
    | '-' :: rest => readNumber true rest
    | rest => readNumber false rest

/-- The items of a list up to its closing bracket. -/
def readItems : Nat → Nat → List Char → Option (List Document × List Char)
  | 0, _, _ => none
  | fuel + 1, depth, cs => do
    let (item, rest) ← readValue fuel depth cs
    match skipBlanks rest with
    | ',' :: rest => do
      let (items, rest) ← readItems fuel depth rest
      pure (item :: items, rest)
    | ']' :: rest => pure ([item], rest)
    | _ => none

/-- The fields of a table up to its closing brace, put into `fields`. -/
def readFields : Nat → Nat → List (String × Document) → List Char →
    Option (List (String × Document) × List Char)
  | 0, _, _, _ => none
  | fuel + 1, depth, fields, cs =>
    match skipBlanks cs with
    | '"' :: rest => do
      let (key, rest) ← readText (rest.length + 1) [] rest
      match skipBlanks rest with
      | ':' :: rest => do
        let (value, rest) ← readValue fuel depth rest
        let fields := Document.insertField key value fields
        match skipBlanks rest with
        | ',' :: rest => readFields fuel depth fields rest
        | '\x7d' :: rest => pure (fields, rest)
        | _ => none
      | _ => none
    | _ => none

end

/-- Reads a document from a text that holds nothing else. -/
def read? (s : String) : Option Document := do
  let cs := s.toList
  let (d, rest) ← readValue (2 * cs.length + 2) depthLimit cs
  if (skipBlanks rest).isEmpty then some d else none

end EventFlow.Json

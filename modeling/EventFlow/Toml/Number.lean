import EventFlow.Decimal.Binary64
import EventFlow.Decimal.Text
import EventFlow.Document.Basic
import EventFlow.Toml.Text

/-!
# Numbers and dates in TOML

Integers have 64 bits and may be written in base sixteen, eight or two; floating-point numbers have
a fraction, an exponent or both. Single underscores may stand between digits. Dates and times are
checked against the calendar and kept as texts in a table of their own, so that they are neither
texts nor records of any other kind.
-/

namespace EventFlow.Toml

/-! ### Digits -/

/-- Further digits of a class with single underscores in front of some, without the underscores,
and the rest. -/
def moreDigits? (isDigit : Char → Bool) : List Char → Option (List Char × List Char)
  | [] => some ([], [])
  | '_' :: [] => none
  | '_' :: c :: cs =>
    if isDigit c then (moreDigits? isDigit cs).map fun (ds, rest) => (c :: ds, rest) else none
  | c :: cs =>
    if isDigit c then (moreDigits? isDigit cs).map fun (ds, rest) => (c :: ds, rest)
    else some ([], c :: cs)

/-- Digits of a class with single underscores between them, without the underscores, and the
rest. -/
def digits? (isDigit : Char → Bool) : List Char → Option (List Char × List Char)
  | [] => none
  | c :: cs =>
    if isDigit c then (moreDigits? isDigit cs).map fun (ds, rest) => (c :: ds, rest) else none

/-- The sign at the front, and whether it is a minus. -/
def sign : List Char → Bool × List Char
  | '+' :: cs => (false, cs)
  | '-' :: cs => (true, cs)
  | cs => (false, cs)

/-- The digits of a decimal integer: a zero stands alone. -/
def decimalDigits? (cs : List Char) : Option (List Char × List Char) :=
  match cs with
  | '0' :: rest => some (['0'], rest)
  | _ => digits? Char.isDigit cs

/-! ### Integers -/

/-- The integer of some digits, if it has 64 bits. -/
def int64? (negative : Bool) (base : Nat) (ds : List Char) : Option Int :=
  let n := ds.foldl (fun n c => base * n + (hexValue? c).getD 0) 0
  if negative then if n ≤ Nat.pow 2 63 then some (-(n : Int)) else none
  else if n < Nat.pow 2 63 then some (n : Int) else none

/-- An integer and the rest. -/
def integer? (cs : List Char) : Option (Int × List Char) :=
  let based (base : Nat) (isDigit : Char → Bool) (rest : List Char) : Option (Int × List Char) := do
    let (ds, rest) ← digits? isDigit rest
    return (← int64? false base ds, rest)
  match cs with
  | '0' :: 'x' :: rest => based 16 (fun c => (hexValue? c).isSome) rest
  | '0' :: 'o' :: rest => based 8 (fun c => '0' ≤ c && c ≤ '7') rest
  | '0' :: 'b' :: rest => based 2 (fun c => c == '0' || c == '1') rest
  | _ => do
    let (negative, rest) := sign cs
    let (ds, rest) ← decimalDigits? rest
    return (← int64? negative 10 ds, rest)

/-! ### Floating-point numbers -/

/-- The exponent at the front, if a letter for it is there. -/
def exponent? (cs : List Char) : Option (Option Int × List Char) :=
  match cs with
  | c :: rest =>
    if c == 'e' || c == 'E' then do
      let (negative, rest) := sign rest
      let (ds, rest) ← digits? Char.isDigit rest
      let n : Int := Decimal.valueOfDigits ds
      return (some (if negative then -n else n), rest)
    else some (none, cs)
  | [] => some (none, [])

/-- The fraction at the front, if a point for it is there. -/
def fraction? (cs : List Char) : Option (Option (List Char) × List Char) :=
  match cs with
  | '.' :: rest => (digits? Char.isDigit rest).map fun (ds, rest) => (some ds, rest)
  | _ => some (none, cs)

/-- A number with a fraction or an exponent, or one of the special ones, and the rest. -/
def float? (cs : List Char) : Option (Document × List Char) :=
  let (negative, rest) := sign cs
  match rest with
  | 'i' :: 'n' :: 'f' :: rest =>
    some (.float (.ofFloat (if negative then -1.0 / 0.0 else 1.0 / 0.0)), rest)
  | 'n' :: 'a' :: 'n' :: rest => some (.float (.ofFloat (0.0 / 0.0)), rest)
  | _ => do
    let (whole, rest) ← decimalDigits? rest
    let (fraction, rest) ← fraction? rest
    let (exponent, rest) ← exponent? rest
    if fraction.isNone && exponent.isNone then failure
    let fraction := fraction.getD []
    let x := Decimal.ofDecimal negative (Decimal.valueOfDigits (whole ++ fraction))
      (exponent.getD 0 - fraction.length)
    if x.isFinite || negative then some (.float (.ofFloat x), rest) else failure

/-! ### Dates and times -/

/-- A number of exactly so many digits within bounds, and the rest. -/
def fixed? (digits low high : Nat) (cs : List Char) : Option (Nat × List Char) :=
  let front := cs.take digits
  if front.length = digits && front.all Char.isDigit then
    let n := Decimal.valueOfDigits front
    if low ≤ n && n ≤ high then some (n, cs.drop digits) else none
  else none

/-- The rest behind a character. -/
def after? (c : Char) : List Char → Option (List Char)
  | d :: cs => if c == d then some cs else none
  | [] => none

/-- How many days a month has. -/
def daysInMonth (year month : Nat) : Nat :=
  if month == 2 then
    if year % 4 == 0 && (year % 100 != 0 || year % 400 == 0) then 29 else 28
  else if month == 4 || month == 6 || month == 9 || month == 11 then 30
  else 31

/-- The rest behind a date. -/
def date? (cs : List Char) : Option (List Char) := do
  let (year, cs) ← fixed? 4 0 9999 cs
  let (month, cs) ← fixed? 2 1 12 (← after? '-' cs)
  let (_, cs) ← fixed? 2 1 (daysInMonth year month) (← after? '-' cs)
  return cs

/-- The rest behind a time. -/
def time? (cs : List Char) : Option (List Char) := do
  let (_, cs) ← fixed? 2 0 23 cs
  let (_, cs) ← fixed? 2 0 59 (← after? ':' cs)
  let (_, cs) ← fixed? 2 0 60 (← after? ':' cs)
  match cs with
  | '.' :: c :: rest => if c.isDigit then return rest.dropWhile Char.isDigit else failure
  | '.' :: [] => failure
  | _ => return cs

/-- The rest behind an offset from universal time, if one is there. -/
def offset? (cs : List Char) : Option (List Char) :=
  match cs with
  | 'Z' :: rest => some rest
  | 'z' :: rest => some rest
  | c :: rest =>
    if c == '+' || c == '-' then do
      let (_, rest) ← fixed? 2 0 23 rest
      let (_, rest) ← fixed? 2 0 59 (← after? ':' rest)
      return rest
    else some cs
  | [] => some []

/-- The rest behind a time of a day, perhaps with an offset, if one follows a date. -/
def timeOfDay? (cs : List Char) : Option (List Char) :=
  match cs with
  | c :: rest =>
    if c == 'T' || c == 't' || c == ' ' then
      match rest with
      | d :: e :: ':' :: _ =>
        if d.isDigit && e.isDigit then (time? rest).bind offset? else some cs
      | _ => some cs
    else some cs
  | [] => some []

/-- A date, a time or both, and the rest. -/
def dateTime? (cs : List Char) : Option (Document × List Char) := do
  let rest ← match date? cs with
    | some rest => timeOfDay? rest
    | none => time? cs
  let text := String.ofList (cs.take (cs.length - rest.length))
  return (.table [("$__toml_private_datetime", .text text)], rest)

/-- A number or a date. -/
def number : Parse Document := do
  let cs ← get
  match dateTime? cs <|> float? cs <|> (integer? cs).map fun (n, rest) => (.int n, rest) with
  | some (d, rest) =>
    set rest
    return d
  | none => throw (.invalid "number")

end EventFlow.Toml

import EventFlow.Decimal.Text

/-!
# What a plain scalar stands for

A scalar without quotes stands for null, a truth value, an integer, a floating-point number or, if
it is none of these, for its own text (`resolve`). Integers may carry a sign and are decimal
without needless zeros in front, or have base sixteen, eight or two after `0x`, `0o` and `0b`;
digits with a needless zero in front are a text and no number (`hasNeedlessZero`).
-/

namespace EventFlow.Yaml

/-- The meaning of a scalar. -/
inductive Scalar where
  | null
  | bool (b : Bool)
  /-- An integer of any size up to `2 ^ 128`. -/
  | int (n : Int)
  | float (x : Float)
  | text (s : String)

/-- The words for null. -/
def isNullWord (s : String) : Bool :=
  s == "null" || s == "Null" || s == "NULL" || s == "~"

/-- The words for truth values. -/
def bool? (s : String) : Option Bool :=
  if s == "true" || s == "True" || s == "TRUE" then some true
  else if s == "false" || s == "False" || s == "FALSE" then some false
  else none

/-- Cuts a leading sign off. -/
def dropSign : List Char → List Char
  | '+' :: cs => cs
  | '-' :: cs => cs
  | cs => cs

/-- Digits with a needless zero in front, perhaps after a sign. -/
def hasNeedlessZero (cs : List Char) : Bool :=
  match dropSign cs with
  | '0' :: c :: rest => (c :: rest).all Char.isDigit
  | _ => false

/-! ### Integers -/

/-- The value of a digit in a base up to sixteen. -/
def digitValue? (base : Nat) (c : Char) : Option Nat :=
  let v? : Option Nat :=
    if c.isDigit then some (c.toNat - '0'.toNat)
    else if 'a' ≤ c && c ≤ 'f' then some (c.toNat - 'a'.toNat + 10)
    else if 'A' ≤ c && c ≤ 'F' then some (c.toNat - 'A'.toNat + 10)
    else none
  v?.bind fun v => if v < base then some v else none

/-- The value of a nonempty list of digits in a base. -/
def natOfDigits? (base : Nat) (cs : List Char) : Option Nat :=
  if cs.isEmpty then none
  else cs.foldlM (fun n c => (digitValue? base c).map (base * n + ·)) 0

/-- The value of the digits after a base mark, or of decimal digits. -/
def magnitude? : List Char → Option Nat
  | '0' :: 'x' :: cs => natOfDigits? 16 cs
  | '0' :: 'o' :: cs => natOfDigits? 8 cs
  | '0' :: 'b' :: cs => natOfDigits? 2 cs
  | cs => if hasNeedlessZero cs then none else natOfDigits? 10 cs

/-- The integer a text stands for, between `-2 ^ 127` and `2 ^ 128 - 1`. -/
def int? (cs : List Char) : Option Int :=
  match cs with
  | '-' :: rest => (magnitude? rest).bind fun n =>
      if n ≤ Nat.pow 2 127 then some (-(n : Int)) else none
  | _ =>
    let rest := match cs with
      | '+' :: rest => rest
      | _ => cs
    (magnitude? rest).bind fun n => if n < Nat.pow 2 128 then some (n : Int) else none

/-! ### Floating-point numbers -/

/-- The exponent at the end of a number. -/
def exponent? : List Char → Option Int
  | [] => some 0
  | c :: cs =>
    if c == 'e' || c == 'E' then
      let (negative, ds) : Bool × List Char := match cs with
        | '-' :: ds => (true, ds)
        | '+' :: ds => (false, ds)
        | _ => (false, cs)
      if ds.isEmpty || !ds.all Char.isDigit then none
      else
        let n : Int := Decimal.valueOfDigits ds
        some (if negative then -n else n)
    else none

/-- A decimal number with a digit on at least one side of its point. -/
def decimal? (cs : List Char) : Option Float :=
  let (negative, cs) : Bool × List Char := match cs with
    | '-' :: cs => (true, cs)
    | '+' :: cs => (false, cs)
    | _ => (false, cs)
  let whole := cs.takeWhile Char.isDigit
  let rest := cs.dropWhile Char.isDigit
  let (fraction, rest) : List Char × List Char := match rest with
    | '.' :: rest => (rest.takeWhile Char.isDigit, rest.dropWhile Char.isDigit)
    | _ => ([], rest)
  if whole.isEmpty && fraction.isEmpty then none
  else (exponent? rest).bind fun e =>
    let x := Decimal.ofDecimal negative (Decimal.valueOfDigits (whole ++ fraction))
      (e - fraction.length)
    if x.isFinite then some x else none

/-- The floating-point number a text stands for, infinities and the non-number included. -/
def float? (s : String) : Option Float :=
  if s == ".inf" || s == ".Inf" || s == ".INF" || s == "+.inf" || s == "+.Inf" || s == "+.INF" then
    some (1.0 / 0.0)
  else if s == "-.inf" || s == "-.Inf" || s == "-.INF" then some (-1.0 / 0.0)
  else if s == ".nan" || s == ".NaN" || s == ".NAN" then some (0.0 / 0.0)
  else match s.toList with
    | '+' :: '+' :: _ => none
    | '+' :: '-' :: _ => none
    | cs => decimal? cs

/-! ### Resolution -/

/-- What a plain scalar stands for. -/
def resolve (s : String) : Scalar :=
  if s == "" || isNullWord s then .null
  else match bool? s with
    | some b => .bool b
    | none =>
      match int? s.toList with
      | some n => .int n
      | none =>
        if hasNeedlessZero s.toList then .text s
        else match float? s with
          | some x => .float x
          | none => .text s

/-- Whether a text is read back as the same text when it is written without quotes, as far as its
meaning goes; digits with a needless zero count as doubtful. -/
def readsAsText (s : String) : Bool :=
  match resolve s with
  | .text _ => !hasNeedlessZero s.toList
  | _ => false

end EventFlow.Yaml

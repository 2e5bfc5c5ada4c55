import EventFlow.Decimal.Shortest

/-!
# Decimal text of binary numbers, and back

How a binary number is written: its shortest digits, positional while the point stands at most
sixteen places behind or five places before the first digit, otherwise with an exponent; a
positional number always keeps a digit behind the point. `ofDecimal` is the number nearest to a
decimal, and `scaled?` the number that arises from digits by one multiplication or division with a
power of ten, both roundings included.
-/

namespace EventFlow.Decimal

/-- The decimal digits of a number. -/
def digitsOf (n : Nat) : List Char :=
  Nat.toDigits 10 n

/-- An integer in decimal. -/
def intDigits : Int → List Char
  | .ofNat n => digitsOf n
  | .negSucc n => '-' :: digitsOf (n + 1)

/-- A decimal as text: positional for moderate exponents, scientific otherwise. -/
def Scientific.text (d : Scientific) : List Char :=
  let ds := digitsOf d.digits
  let point : Int := ds.length + d.exponent
  if 0 ≤ d.exponent && point ≤ 16 then ds ++ List.replicate d.exponent.toNat '0' ++ ['.', '0']
  else if 0 < point && point ≤ 16 then ds.take point.toNat ++ '.' :: ds.drop point.toNat
  else if -5 < point && point ≤ 0 then ['0', '.'] ++ List.replicate (-point).toNat '0' ++ ds
  else
    let head := ds.take 1
    let tail := ds.drop 1
    let fraction := if tail.isEmpty then [] else '.' :: tail
    head ++ fraction ++ 'e' :: intDigits (point - 1)

/-- A finite number as text. -/
def Binary64.text (x : Binary64) : String :=
  let body := if x.mantissa == 0 then ['0', '.', '0'] else (shortest x.mantissa x.scale).text
  String.ofList (if x.isNegative then '-' :: body else body)

/-- The value of a list of decimal digits. -/
def valueOfDigits (ds : List Char) : Nat :=
  ds.foldl (fun n c => 10 * n + (c.toNat - 48)) 0

/-- The binary number nearest to `± digits · 10 ^ exponent`. Exponents out of every number's reach
are cut short, so that no huge power is formed. -/
def ofDecimal (negative : Bool) (digits : Nat) (exponent : Int) : Float :=
  let magnitude : Int := (digitsOf digits).length + exponent
  let x : Float :=
    if digits == 0 then 0.0
    else if magnitude > 400 then 1.0 / 0.0
    else if magnitude < -400 then 0.0
    else Float.ofScientific digits (exponent < 0) exponent.natAbs
  if negative then -x else x

/-- A power of ten as a binary number, for exponents up to 308. -/
def powerOfTen (k : Nat) : Float :=
  Float.ofScientific 1 false k

/-- Divides by `10 ^ 308` until the rest of the exponent is in reach. -/
def divideByPower : Nat → Float → Nat → Float
  | 0, x, _ => x
  | fuel + 1, x, k =>
    if k ≤ 308 then x / powerOfTen k
    else if x == 0.0 then x
    else divideByPower fuel (x / powerOfTen 308) (k - 308)

/-- `digits · 10 ^ exponent` by machine arithmetic: the digits are rounded first and then multiplied
or divided. `none` when the result is out of range. -/
def scaled? (negative : Bool) (digits : Nat) (exponent : Int) : Option Float :=
  let x := digits.toFloat
  let y : Option Float :=
    if 0 ≤ exponent then
      if exponent ≤ 308 then
        let y := x * powerOfTen exponent.toNat
        if y.isInf then none else some y
      else if x == 0.0 then some x
      else none
    else some (divideByPower (exponent.natAbs / 308 + 1) x exponent.natAbs)
  y.map fun y => if negative then -y else y

end EventFlow.Decimal

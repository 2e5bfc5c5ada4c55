import EventFlow.Decimal.Binary64

/-!
# The shortest decimal that reads back

Among the decimals that round to a given binary number, `shortest` picks one with the fewest
digits, of these the nearest to the number, and of two equally near ones the one with an even last
digit. Everything is exact: the number is `m · 2 ^ q`, the decimals that round to it fill the
interval between its two half-way points, and a decimal `c · 10 ^ e` is compared with a bound
`b · 2 ^ (q - 2)` by multiplying out (`compareDecimal`).
-/

namespace EventFlow.Decimal

/-- A decimal `digits · 10 ^ exponent`. -/
structure Scientific where
  digits : Nat
  exponent : Int
  deriving DecidableEq, Repr

/-- Compares `c · 10 ^ e` with `b · 2 ^ p`. -/
def compareDecimal (c : Nat) (e : Int) (b : Nat) (p : Int) : Ordering :=
  compare (c * Nat.pow 10 e.toNat * Nat.pow 2 (-p).toNat)
    (b * Nat.pow 2 p.toNat * Nat.pow 10 (-e).toNat)

/-- The interval of reals that round to `m · 2 ^ q`, its ends counted in units of `2 ^ (q - 2)`;
the lower neighbour of a power of two is nearer than its upper one. -/
structure RoundingInterval where
  low : Nat
  middle : Nat
  high : Nat
  scale : Int
  closed : Bool

/-- The interval of `m · 2 ^ q`. -/
def RoundingInterval.of (m : Nat) (q : Int) : RoundingInterval where
  low := if m == Nat.pow 2 52 && q != -1074 then 4 * m - 1 else 4 * m - 2
  middle := 4 * m
  high := 4 * m + 2
  scale := q - 2
  closed := m % 2 == 0

/-- Whether the decimal `c · 10 ^ e` lies in the interval. -/
def RoundingInterval.contains (r : RoundingInterval) (c : Nat) (e : Int) : Bool :=
  let above := compareDecimal c e r.low r.scale
  let below := compareDecimal c e r.high r.scale
  (above == .gt || (r.closed && above == .eq)) && (below == .lt || (r.closed && below == .eq))

/-- The integer below the quotient of the number by `10 ^ e`. -/
def RoundingInterval.floorAt (r : RoundingInterval) (e : Int) : Nat :=
  (r.middle * Nat.pow 2 r.scale.toNat * Nat.pow 10 (-e).toNat)
    / (Nat.pow 10 e.toNat * Nat.pow 2 (-r.scale).toNat)

/-- The better of the two neighbours of the number on the grid of multiples of `10 ^ e`, if one
lies in the interval. -/
def RoundingInterval.nearest? (r : RoundingInterval) (e : Int) : Option Nat :=
  let c := r.floorAt e
  match r.contains c e && c != 0, r.contains (c + 1) e with
  | false, false => none
  | true, false => some c
  | false, true => some (c + 1)
  | true, true =>
    -- the middle between the two neighbours, compared with the number itself
    match compareDecimal (2 * c + 1) e (2 * r.middle) r.scale with
    | .gt => some c
    | .lt => some (c + 1)
    | .eq => if c % 2 == 0 then some c else some (c + 1)

/-- The exponent of the leading decimal digit of `m · 2 ^ q`. -/
def leadingExponent (m : Nat) (q : Int) : Int :=
  let num := m * Nat.pow 2 q.toNat
  let den := Nat.pow 2 (-q).toNat
  if den ≤ num then ((Nat.toDigits 10 (num / den)).length : Int) - 1
  else
    match (List.range 330).find? (fun j => den ≤ num * Nat.pow 10 j) with
    | some j => -(j : Int)
    | none => -330

/-- Tries the grids from one digit on; seventeen digits always suffice. -/
def shortestFrom (r : RoundingInterval) (lead : Int) : Nat → Nat → Scientific
  | 0, n => ⟨r.floorAt (lead + 1 - n), lead + 1 - n⟩
  | k + 1, n =>
    match r.nearest? (lead + 1 - n) with
    | some c => ⟨c, lead + 1 - n⟩
    | none => shortestFrom r lead k (n + 1)

/-- Moves the zeros at the end of the digits into the exponent; `k` bounds their number. -/
def Scientific.normalize : Nat → Scientific → Scientific
  | 0, d => d
  | k + 1, d =>
    if d.digits != 0 && d.digits % 10 == 0 then
      normalize k ⟨d.digits / 10, d.exponent + 1⟩
    else d

/-- The shortest decimal that rounds to `m · 2 ^ q`, for `m` other than zero. -/
def shortest (m : Nat) (q : Int) : Scientific :=
  (shortestFrom (RoundingInterval.of m q) (leadingExponent m q) 17 1).normalize 20

end EventFlow.Decimal

/-!
# Binary floating-point numbers

A double-precision number, kept as its sixty-four bits so that two numbers are equal exactly when
they are the same pattern. A finite number is `± m · 2 ^ q` for the `mantissa` `m` and the
`scale` `q` read off the pattern.
-/

namespace EventFlow.Decimal

/-- A double-precision number by its bits. -/
structure Binary64 where
  bits : UInt64
  deriving DecidableEq, Repr, Inhabited

namespace Binary64

/-- The pattern of a machine number. -/
def ofFloat (x : Float) : Binary64 := ⟨x.toBits⟩

/-- The exponent field. -/
def exponentField (x : Binary64) : Nat := ((x.bits >>> 52) &&& 0x7FF).toNat

/-- The fraction field. -/
def fractionField (x : Binary64) : Nat := (x.bits &&& 0xFFFFFFFFFFFFF).toNat

/-- Whether the sign bit is set; it is for negative zero too. -/
def isNegative (x : Binary64) : Bool := x.bits >>> 63 == 1

/-- Whether the pattern stands for a number, neither an infinity nor a non-number. -/
def isFinite (x : Binary64) : Bool := x.exponentField != 0x7FF

/-- The integer `m` of `± m · 2 ^ q`. -/
def mantissa (x : Binary64) : Nat :=
  if x.exponentField == 0 then x.fractionField else x.fractionField + Nat.pow 2 52

/-- The exponent `q` of `± m · 2 ^ q`. -/
def scale (x : Binary64) : Int :=
  if x.exponentField == 0 then -1074 else (x.exponentField : Int) - 1075

end Binary64

end EventFlow.Decimal

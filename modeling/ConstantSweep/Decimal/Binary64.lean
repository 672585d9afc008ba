set_option autoImplicit false

namespace ConstantSweep.Decimal

structure Binary64 where
  bits : UInt64
  deriving DecidableEq, Repr, Inhabited

namespace Binary64

def isNegative (x : Binary64) : Bool := Nat.pow 2 63 ≤ x.bits.toNat

def exponentField (x : Binary64) : Nat := x.bits.toNat / Nat.pow 2 52 % Nat.pow 2 11

def fractionField (x : Binary64) : Nat := x.bits.toNat % Nat.pow 2 52

def isNaN (x : Binary64) : Bool := x.exponentField == 2047 && x.fractionField != 0

def isInfinite (x : Binary64) : Bool := x.exponentField == 2047 && x.fractionField == 0

def isFinite (x : Binary64) : Bool := x.exponentField != 2047

def isZero (x : Binary64) : Bool := x.exponentField == 0 && x.fractionField == 0

def significand (x : Binary64) : Nat :=
  if x.exponentField == 0 then x.fractionField else Nat.pow 2 52 + x.fractionField

def exponent (x : Binary64) : Int :=
  if x.exponentField == 0 then -1074 else (x.exponentField : Int) - 1075

def magnitude (x : Binary64) : Nat × Nat :=
  if 0 ≤ x.exponent then (x.significand * Nat.pow 2 x.exponent.toNat, 1)
  else (x.significand, Nat.pow 2 (-x.exponent).toNat)

def ofMagnitudeBits (negative : Bool) (magnitude : Nat) : Binary64 :=
  ⟨(magnitude + if negative then Nat.pow 2 63 else 0).toUInt64⟩

def infinity (negative : Bool) : Binary64 := ofMagnitudeBits negative (2047 * Nat.pow 2 52)

def nan : Binary64 := ofMagnitudeBits false (2047 * Nat.pow 2 52 + Nat.pow 2 51)

def nanOf (mark : Nat) : Binary64 :=
  ofMagnitudeBits false (2047 * Nat.pow 2 52 + Nat.pow 2 51 + mark % Nat.pow 2 51)

def divideToNearest (numerator denominator : Nat) : Nat :=
  let quotient := numerator / denominator
  let twice := 2 * (numerator % denominator)
  if twice < denominator then quotient
  else if denominator < twice then quotient + 1
  else quotient + quotient % 2

-- The number nearest to a fraction, of two equally near the one with the even significand. The
-- significand gets fifty-three bits where the range of exponents allows it; one that is rounded up to the
-- next power of two carries into the exponent by itself.
def ofRatio (negative : Bool) (numerator denominator : Nat) : Binary64 :=
  if numerator = 0 then ofMagnitudeBits negative 0
  else
    let guess : Int := (Nat.log2 numerator : Int) - Nat.log2 denominator - 52
    let scaled (q : Int) : Nat × Nat :=
      if 0 ≤ q then (numerator, denominator * Nat.pow 2 q.toNat) else (numerator * Nat.pow 2 (-q).toNat, denominator)
    let exact (q : Int) : Bool := Nat.pow 2 52 * (scaled q).2 ≤ (scaled q).1
    let q : Int := max (-1074) (if exact guess then guess else guess - 1)
    let m := divideToNearest (scaled q).1 (scaled q).2
    let bits := (q + 1074).toNat * Nat.pow 2 52 + m
    if 2047 * Nat.pow 2 52 ≤ bits then infinity negative else ofMagnitudeBits negative bits

-- The number nearest to `coefficient * 10^exponent`. Far outside the range of exponents the power of
-- ten is not computed.
def ofDecimal (negative : Bool) (coefficient : Nat) (exponent : Int) : Binary64 :=
  let digits : Int := (Nat.toDigits 10 coefficient).length
  if coefficient = 0 then ofMagnitudeBits negative 0
  else if 400 < exponent + digits then infinity negative
  else if exponent + digits < -400 then ofMagnitudeBits negative 0
  else if 0 ≤ exponent then ofRatio negative (coefficient * Nat.pow 10 exponent.toNat) 1
  else ofRatio negative coefficient (Nat.pow 10 (-exponent).toNat)

def ofInt (value : Int) : Binary64 := ofRatio (value < 0) value.natAbs 1

def truncate? (x : Binary64) : Option Int :=
  if x.isFinite then
    let whole : Int := (x.magnitude.1 / x.magnitude.2 : Nat)
    some (if x.isNegative then -whole else whole)
  else none

def toInt? (x : Binary64) : Option Int :=
  if x.isFinite && x.magnitude.1 % x.magnitude.2 == 0 then x.truncate? else none

def toFloat (x : Binary64) : Float := Float.ofBits x.bits

def ofFloat (x : Float) : Binary64 := ⟨x.toBits⟩

example : ofDecimal false 1 (-1) = ⟨0x3fb999999999999a⟩ := by decide +kernel
example : ofDecimal false 5 (-324) = ⟨1⟩ := by decide +kernel
example : ofDecimal false 17976931348623159 292 = infinity false := by decide +kernel
example : ofDecimal true 0 0 = ⟨0x8000000000000000⟩ := by decide +kernel

end ConstantSweep.Decimal.Binary64

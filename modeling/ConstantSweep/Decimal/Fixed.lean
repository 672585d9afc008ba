import ConstantSweep.Decimal.Binary64

set_option autoImplicit false

namespace ConstantSweep.Decimal

def Binary64.tenths (x : Binary64) : Nat :=
  Binary64.divideToNearest (10 * x.magnitude.1) x.magnitude.2

def Binary64.onePlace (x : Binary64) : String :=
  let sign := if x.isNegative then "-" else ""
  if x.isNaN then "nan"
  else if x.isInfinite then sign ++ "inf"
  else sign ++ toString (x.tenths / 10) ++ "." ++ toString (x.tenths % 10)

example : (Binary64.ofDecimal false 25 (-2)).onePlace = "0.2" := by decide +kernel
example : (Binary64.ofDecimal true 4 (-2)).onePlace = "-0.0" := by decide +kernel

end ConstantSweep.Decimal

import ConstantSweep.Decimal.Binary64

set_option autoImplicit false

namespace ConstantSweep.Decimal

structure Digits where
  digits : List Char
  point : Int
  deriving DecidableEq, Repr

structure GridPoint where
  count : Nat
  scale : Int
  deriving DecidableEq, Repr

def GridPoint.ratio (point : GridPoint) : Nat × Nat :=
  if 0 ≤ point.scale then (point.count * Nat.pow 10 point.scale.toNat, 1)
  else (point.count, Nat.pow 10 (-point.scale).toNat)

def ratioLt (left right : Nat × Nat) : Bool := left.1 * right.2 < right.1 * left.2

def ratioLe (left right : Nat × Nat) : Bool := left.1 * right.2 ≤ right.1 * left.2

-- The ends of the interval of reals that round to the number. Below a power of two the lower
-- neighbour is only half as far; the ends belong to it exactly if the significand is even.
structure Interval where
  lower : Nat × Nat
  upper : Nat × Nat
  closed : Bool
  deriving Repr

def Interval.holds (interval : Interval) (ratio : Nat × Nat) : Bool :=
  if interval.closed then ratioLe interval.lower ratio && ratioLe ratio interval.upper
  else ratioLt interval.lower ratio && ratioLt ratio interval.upper

def Binary64.interval (x : Binary64) : Interval :=
  let m := x.significand
  let quarter (count : Nat) : Nat × Nat :=
    let q := x.exponent - 2
    if 0 ≤ q then (count * Nat.pow 2 q.toNat, 1) else (count, Nat.pow 2 (-q).toNat)
  let below := if m == Nat.pow 2 52 && 1 < x.exponentField then 4 * m - 1 else 4 * m - 2
  ⟨quarter below, quarter (4 * m + 2), m % 2 == 0⟩

def magnitudeOf (ratio : Nat × Nat) : Int :=
  let guess : Int := ((Nat.toDigits 10 ratio.1).length : Int) - (Nat.toDigits 10 ratio.2).length
  let power : Nat × Nat := (⟨1, guess⟩ : GridPoint).ratio
  if ratioLe power ratio then guess + 1 else guess

def neighbours (ratio : Nat × Nat) (scale : Int) : GridPoint × GridPoint :=
  let steps :=
    if 0 ≤ scale then ratio.1 / (ratio.2 * Nat.pow 10 scale.toNat)
    else ratio.1 * Nat.pow 10 (-scale).toNat / ratio.2
  (⟨steps, scale⟩, ⟨steps + 1, scale⟩)

def nearer (ratio : Nat × Nat) (low high : GridPoint) : GridPoint :=
  let total : Nat × Nat := (⟨low.count + high.count, low.scale⟩ : GridPoint).ratio
  let twice : Nat × Nat := (2 * ratio.1, ratio.2)
  if ratioLt twice total then low
  else if ratioLt total twice then high
  else if low.count % 2 == 0 then low else high

-- The first of the grids with one digit, two digits and so on that has a point in the interval.
def firstGrid (x : Binary64) : Nat → Int → GridPoint
  | 0, scale => (neighbours x.magnitude scale).1
  | more + 1, scale =>
      let (low, high) := neighbours x.magnitude scale
      let lowIn := x.interval.holds low.ratio
      let highIn := x.interval.holds high.ratio
      if lowIn && highIn then nearer x.magnitude low high
      else if lowIn then low
      else if highIn then high
      else firstGrid x more (scale - 1)

def Binary64.shortest (x : Binary64) : Digits :=
  let k := magnitudeOf x.magnitude
  let point := firstGrid x 17 (k - 1)
  let digits := Nat.toDigits 10 point.count
  ⟨(digits.reverse.dropWhile (· == '0')).reverse, point.scale + digits.length⟩

-- Positional from `10^-4` up to `10^16`, with at least one digit after the point; else one digit
-- before the point and an exponent of two digits or more.
def Digits.layout (d : Digits) : List Char :=
  if -4 < d.point && d.point ≤ 16 then
    if d.point ≤ 0 then
      ['0', '.'] ++ List.replicate (-d.point).toNat '0' ++ d.digits
    else
      let whole := d.point.toNat
      let padded := d.digits ++ List.replicate (whole - d.digits.length) '0'
      let rest := padded.drop whole
      padded.take whole ++ ['.'] ++ (if rest.isEmpty then ['0'] else rest)
  else
    let power := d.point - 1
    let digits := Nat.toDigits 10 power.natAbs
    let mantissa := match d.digits with
      | [] => ['0']
      | [single] => [single]
      | first :: rest => first :: '.' :: rest
    mantissa ++ ['e', if power < 0 then '-' else '+'] ++
      (if digits.length < 2 then '0' :: digits else digits)

def Binary64.text (x : Binary64) : String :=
  let sign := if x.isNegative then "-" else ""
  if x.isNaN then "nan"
  else if x.isInfinite then sign ++ "inf"
  else if x.isZero then sign ++ "0.0"
  else sign ++ String.ofList x.shortest.layout

example : (Binary64.ofDecimal false 3 (-1)).text = "0.3" := by decide +kernel
example : (Binary64.ofDecimal false 5 (-324)).text = "5e-324" := by decide +kernel
example : (Binary64.ofDecimal true 1 22).text = "-1e+22" := by decide +kernel

end ConstantSweep.Decimal

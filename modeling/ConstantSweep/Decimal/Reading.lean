import ConstantSweep.Decimal.Binary64
import ConstantSweep.Text.Blank
import ConstantSweep.Text.Digit

set_option autoImplicit false

namespace ConstantSweep.Decimal

open ConstantSweep.Text

def takeDecimals : List Letter → List Nat × List Letter
  | [] => ([], [])
  | c :: rest =>
      match digitValue? c with
      | some value => (value :: (takeDecimals rest).1, (takeDecimals rest).2)
      | none => ([], c :: rest)

def dropSeparators : Bool → List Letter → Option (List Letter)
  | _, [] => some []
  | afterDigit, .char '_' :: rest =>
      match rest with
      | next :: _ => if afterDigit && isDecimalDigit next then dropSeparators false rest else none
      | [] => none
  | _, c :: rest => (dropSeparators (isDecimalDigit c) rest).map (c :: ·)

def readExponent : List Letter → Option Int
  | [] => some 0
  | mark :: rest =>
      if mark == 'e' || mark == 'E' then
        let (negative, digits) := match rest with
          | .char '-' :: more => (true, more)
          | .char '+' :: more => (false, more)
          | more => (false, more)
        match takeDecimals digits with
        | ([], _) => none
        | (values, []) =>
            let size : Int := (values.foldl (fun value d => value * 10 + d) 0 : Nat)
            some (if negative then -size else size)
        | _ => none
      else none

def readMagnitude (negative : Bool) (text : List Letter) : Option Binary64 :=
  let (whole, rest) := takeDecimals text
  let (fraction, rest) := match rest with
    | .char '.' :: more => takeDecimals more
    | more => ([], more)
  if whole.isEmpty && fraction.isEmpty then none
  else (readExponent rest).map fun exponent =>
    let coefficient := (whole ++ fraction).foldl (fun value d => value * 10 + d) 0
    Binary64.ofDecimal negative coefficient (exponent - fraction.length)

def readNumber (text : Text) : Option Binary64 :=
  let body := trim surroundsNumber text.toList
  let (negative, unsigned) := match body with
    | .char '-' :: more => (true, more)
    | .char '+' :: more => (false, more)
    | more => (false, more)
  let word := ((Text.ofList unsigned).string?.getD "").toLower
  if word == "inf" || word == "infinity" then some (.infinity negative)
  else if word == "nan" then some .nan
  else (dropSeparators false unsigned).bind (readMagnitude negative)

end ConstantSweep.Decimal

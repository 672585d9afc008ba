import ConstantSweep.Text.Blank
import ConstantSweep.Text.Digit
import ConstantSweep.Text.Quoted

set_option autoImplicit false

namespace ConstantSweep.Text

def digitLimit : Nat := 4300

inductive IntegerFault where
  | malformed (base : Nat) (shown : Text)
  | tooLong (digits : Nat)
  | unwritable
  deriving DecidableEq, Repr

def IntegerFault.message : IntegerFault → Text
  | .malformed base shown =>
      s!"invalid literal for int() with base {base}: " ++ Text.ofList (shown.toList.take 200)
  | .tooLong digits =>
      s!"Exceeds the limit ({digitLimit} digits) for integer string conversion: " ++
        s!"value has {digits} digits; use sys.set_int_max_str_digits() to increase the limit"
  | .unwritable =>
      s!"Exceeds the limit ({digitLimit} digits) for integer string conversion; " ++
        "use sys.set_int_max_str_digits() to increase the limit"

def isWritable (value : Int) : Bool := value.natAbs < Nat.pow 10 digitLimit

def digitIn? (base : Nat) (c : Letter) : Option Nat :=
  let value := match c with
    | .char c => if c.isAlpha then some (hexadecimalValue c) else digitValue? c
    | .half _ => none
  value.filter (· < base)

-- The digits at the front and what follows; `pending` tells that an underscore was just read, after
-- which a digit has to come. `none` stands for an underscore that is not between digits.
def digitsFrom (base : Nat) : Bool → List Letter → Option (List Nat × List Letter)
  | pending, [] => if pending then none else some ([], [])
  | pending, c :: rest =>
      match digitIn? base c with
      | some value => (digitsFrom base false rest).map fun (more, tail) => (value :: more, tail)
      | none =>
          if pending then none
          else if c == '_' then digitsFrom base true rest
          else some ([], c :: rest)

def takeDigits (base : Nat) : List Letter → Option (List Nat × List Letter)
  | .char '_' :: _ => none
  | text => digitsFrom base false text

def dropBaseMark (base : Nat) : List Letter → List Letter
  | .char '0' :: mark :: rest =>
      let marked := (base == 2 && (mark == 'b' || mark == 'B')) ||
        (base == 8 && (mark == 'o' || mark == 'O')) || (base == 16 && (mark == 'x' || mark == 'X'))
      if marked then
        match rest with
        | .char '_' :: digits => digits
        | digits => digits
      else '0' :: mark :: rest
  | text => text

def valueOf (base : Nat) (digits : List Nat) : Nat := digits.foldl (fun value d => value * base + d) 0

def takeSign : List Letter → Bool × List Letter
  | .char '-' :: rest => (true, rest)
  | .char '+' :: rest => (false, rest)
  | text => (false, text)

def readDigits (base : Nat) (shown : Text) (text : List Letter) : Except IntegerFault Int :=
  let (negative, unsigned) := takeSign (trim surroundsNumber text)
  match takeDigits base (dropBaseMark base unsigned) with
  | none => .error (.malformed base shown)
  | some (digits, rest) =>
      if base == 10 && digitLimit < digits.length then .error (.tooLong digits.length)
      else if digits.isEmpty || !rest.isEmpty then .error (.malformed base shown)
      else
        let value : Int := valueOf base digits
        .ok (if negative then -value else value)

def readInteger (base : Nat) (text : Text) : Except IntegerFault Int :=
  readDigits base (quoted text) text.toList

def readIntegerBytes (base : Nat) (bytes : List UInt8) : Except IntegerFault Int :=
  readDigits base (quotedBytes bytes)
    (bytes.map fun byte => .char (if byte < 0x80 then Char.ofNat byte.toNat else '?'))

end ConstantSweep.Text

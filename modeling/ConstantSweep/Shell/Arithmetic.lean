import ConstantSweep.Shell.Octets
import ConstantSweep.Text.Numeral

set_option autoImplicit false

namespace ConstantSweep.Shell

inductive Atom where
  | number (value : Int)
  | name (name : String)
  | sign (sign : String)
  deriving DecidableEq, Repr

inductive ArithmeticFault where
  | malformed
  | divisionByZero
  deriving DecidableEq, Repr

namespace Arithmetic

open ConstantSweep.Text

def signs : List String :=
  ["<<", ">>", "<=", ">=", "==", "!=", "&&", "||", "+", "-", "*", "/", "%", "(", ")", "<", ">", "!", "~",
   "&", "|", "^", "?", ":"]

def numeral? (octets : Octets) : Option Nat :=
  match octets with
  | '0' :: x :: digits =>
      if (x == 'x' || x == 'X') && !digits.isEmpty && digits.all isHexadecimal then some (numberIn 16 digits)
      else if (x :: digits).all isOctal then some (numberIn 8 (x :: digits))
      else none
  | digits => if !digits.isEmpty && digits.all Char.isDigit then some (numberIn 10 digits) else none

def atoms : Nat → Octets → Option (List Atom)
  | 0, _ => none
  | _, [] => some []
  | fuel + 1, c :: rest =>
      if c == ' ' || c == '\t' || c == '\n' then atoms fuel rest
      else if c.isAlphanum || c == '_' then
        let isPart (c : Char) : Bool := c.isAlphanum || c == '_'
        let word := (c :: rest).takeWhile isPart
        let after := (c :: rest).dropWhile isPart
        if c.isDigit then do
          return .number (← numeral? word) :: (← atoms fuel after)
        else do
          return .name (String.ofList word) :: (← atoms fuel after)
      else do
        let sign ← signs.find? fun sign => sign.toList.isPrefixOf (c :: rest)
        return .sign sign :: (← atoms fuel ((c :: rest).drop sign.length))

def levels : List (List String) :=
  [["||"], ["&&"], ["|"], ["^"], ["&"], ["==", "!="], ["<", "<=", ">", ">="], ["<<", ">>"], ["+", "-"],
   ["*", "/", "%"]]

def ofBool (value : Bool) : Int := if value then 1 else 0

def toWord (number : Int) : Int := number.bmod (Nat.pow 2 64)

def bitsOf (number : Int) : Nat := (number.emod (Nat.pow 2 64)).toNat

def onBits (combine : Nat → Nat → Nat) (left right : Int) : Int :=
  toWord (combine (bitsOf left) (bitsOf right))

def shiftOf (right : Int) : Nat := bitsOf right % 64

def apply (sign : String) (left right : Int) : Except ArithmeticFault Int :=
  match sign with
  | "||" => .ok (ofBool (left != 0 || right != 0))
  | "&&" => .ok (ofBool (left != 0 && right != 0))
  | "|" => .ok (onBits Nat.lor left right)
  | "^" => .ok (onBits Nat.xor left right)
  | "&" => .ok (onBits Nat.land left right)
  | "==" => .ok (ofBool (left == right))
  | "!=" => .ok (ofBool (left != right))
  | "<" => .ok (ofBool (left < right))
  | "<=" => .ok (ofBool (left ≤ right))
  | ">" => .ok (ofBool (left > right))
  | ">=" => .ok (ofBool (left ≥ right))
  | "<<" => .ok (toWord (left * Nat.pow 2 (shiftOf right)))
  | ">>" => .ok (Int.fdiv left (Nat.pow 2 (shiftOf right)))
  | "+" => .ok (toWord (left + right))
  | "-" => .ok (toWord (left - right))
  | "*" => .ok (toWord (left * right))
  | "/" => if right = 0 then .error .divisionByZero else .ok (left.tdiv right)
  | "%" => if right = 0 then .error .divisionByZero else .ok (left.tmod right)
  | _ => .error .malformed

abbrev Result := Except ArithmeticFault (Int × List Atom)

def continueLevel (operand : List Atom → Result) (level : List String) : Nat → Int → List Atom → Result
  | 0, left, rest => .ok (left, rest)
  | fuel + 1, left, .sign sign :: rest =>
      if level.contains sign then do
        let (right, rest) ← operand rest
        continueLevel operand level fuel (← apply sign left right) rest
      else .ok (left, .sign sign :: rest)
  | _, left, rest => .ok (left, rest)

def binary (operand : List Atom → Result) : List (List String) → List Atom → Result
  | [], rest => operand rest
  | level :: tighter, rest => do
      let (left, after) ← binary operand tighter rest
      continueLevel (binary operand tighter) level after.length left after

-- An operand: a number, a variable, or an expression with a sign before it or parentheses around it.
def operand (bindings : String → Int) (whole : List Atom → Result) (unary : List Atom → Result) :
    List Atom → Result
  | .number value :: rest => .ok (value, rest)
  | .name name :: rest => .ok (bindings name, rest)
  | .sign "-" :: rest => (unary rest).map fun (value, rest) => (-value, rest)
  | .sign "+" :: rest => unary rest
  | .sign "!" :: rest => (unary rest).map fun (value, rest) => (ofBool (value == 0), rest)
  | .sign "~" :: rest => (unary rest).map fun (value, rest) => (-value - 1, rest)
  | .sign "(" :: rest => do
      match ← whole rest with
      | (value, .sign ")" :: rest) => return (value, rest)
      | _ => throw .malformed
  | _ => .error .malformed

def expression (bindings : String → Int) : Nat → Bool → List Atom → Result
  | 0, _, _ => .error .malformed
  | fuel + 1, isWhole, rest => do
      let single := operand bindings (expression bindings fuel true) (expression bindings fuel false)
      if isWhole then
        let (value, after) ← binary single levels rest
        match after with
        | .sign "?" :: yes => do
            let (first, after) ← expression bindings fuel true yes
            match after with
            | .sign ":" :: no => do
                let (second, after) ← expression bindings fuel true no
                return (if value != 0 then first else second, after)
            | _ => throw .malformed
        | after => return (value, after)
      else single rest

end Arithmetic

def evaluate (bindings : String → Int) (octets : Octets) : Except ArithmeticFault Int :=
  match Arithmetic.atoms (octets.length + 1) octets with
  | none => .error .malformed
  | some [] => .ok 0
  | some atoms =>
      match Arithmetic.expression bindings (atoms.length + 1) true atoms with
      | .ok (value, []) => .ok value
      | .ok _ => .error .malformed
      | .error fault => .error fault

end ConstantSweep.Shell

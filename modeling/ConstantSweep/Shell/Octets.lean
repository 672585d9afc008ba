import ConstantSweep.Text.Utf8

set_option autoImplicit false

namespace ConstantSweep.Shell

open ConstantSweep.Text

abbrev Octets := List Char

namespace Octets

def ofBytes (bytes : List UInt8) : Octets := bytes.map fun byte => Char.ofNat byte.toNat

def bytes (octets : Octets) : List UInt8 := octets.map fun c => c.toNat.toUInt8

def ofName (name : Text) : Octets := ofBytes (Utf8.encodeName name)

def name (octets : Octets) : Text := ⟨Utf8.decodeName (bytes octets)⟩

def text (octets : Octets) : Text := .ofChars (Utf8.decodeLossy (bytes octets))

def ofNat (number : Nat) : Octets := (toString number).toList

def ofInt (number : Int) : Octets := (toString number).toList

end Octets

def readDecimal (octets : Octets) : Option Int :=
  let number (digits : Octets) : Option Int :=
    if !digits.isEmpty && digits.all Char.isDigit then
      some (digits.foldl (fun value c => value * 10 + (c.toNat - 48 : Nat)) 0)
    else none
  match octets with
  | '-' :: digits => (number digits).map fun value => -value
  | '+' :: digits => number digits
  | digits => number digits

def linesOf (octets : Octets) : List Octets :=
  match octets with
  | [] => []
  | octets => go octets
where
  go : Octets → List Octets
    | [] => [[]]
    | ['\n'] => [[]]
    | '\n' :: rest => [] :: go rest
    | c :: rest =>
        match go rest with
        | [] => [[c]]
        | line :: lines => (c :: line) :: lines

end ConstantSweep.Shell

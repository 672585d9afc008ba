import ConstantSweep.Datum.Basic

set_option autoImplicit false

namespace ConstantSweep.Datum

open ConstantSweep.Decimal

def hashPrime : Nat := Nat.pow 2 61 - 1

def signedHash (isNegative : Bool) (remainder : Nat) : Int :=
  let hash : Int := if isNegative then -(remainder : Int) else remainder
  if hash == -1 then -2 else hash

-- The hash of a number; equal numbers of different kinds have the same. A power of two is reduced through
-- its exponent, because the prime is one less than a power of two.
def hash? (value : Datum) : Option Int :=
  match value with
  | .float number =>
      if number.isNaN then none
      else if number.isInfinite then some (if number.isNegative then -314159 else 314159)
      else
        let power := Nat.pow 2 (Int.emod number.exponent 61).toNat
        some (signedHash number.isNegative (number.significand * power % hashPrime))
  | value => value.integer?.map fun number => signedHash (number < 0) (number.natAbs % hashPrime)

-- The size of the table for a number of members: a power of two, so large that it stays half empty.
def tableSize (count : Nat) : Nat :=
  if count < 5 then 8 else Nat.pow 2 (max 3 (Nat.log2 (2 * count) + 1))

def slotsInRow : Nat := 9

-- The first free slot for a number. When a row of slots is taken the search goes on at another place, which
-- further bits of the hash decide as long as there are some.
def freeSlot (taken : List Nat) (mask slot rest : Nat) : Nat → Nat
  | 0 => slot
  | fuel + 1 =>
      let row := if slot + slotsInRow ≤ mask then slotsInRow + 1 else 1
      match (List.range row).find? fun offset => !taken.contains (slot + offset) with
      | some offset => slot + offset
      | none =>
          let rest := rest / 32
          freeSlot taken mask ((slot * 5 + 1 + rest) % (mask + 1)) rest fuel

def placeAll (mask : Nat) (placed : List (Nat × Datum)) : List (Datum × Int) → List (Nat × Datum)
  | [] => placed
  | (item, hash) :: items =>
      let bits := (Int.emod hash (Nat.pow 2 64 : Nat)).toNat
      let slot := freeSlot (placed.map Prod.fst) mask (bits % (mask + 1)) bits (mask + 65)
      placeAll mask (placed ++ [(slot, item)]) items

-- The members of a set in the order in which it lists them. Only numbers have one that is known.
def listed (items : List Datum) : List Datum :=
  match items.mapM fun item => item.hash?.map fun hash => (item, hash) with
  | none => items
  | some hashed =>
      let placed := placeAll (tableSize items.length - 1) [] hashed
      (placed.mergeSort fun left right => left.1 ≤ right.1).map Prod.snd

-- Sixteen, three and eight in a table of eight slots: eight moves on to the slot after that of sixteen.
example : freeSlot [0, 3] 7 0 8 8 = 1 := by decide

end ConstantSweep.Datum

import ConstantSweep.Decimal.Reading
import ConstantSweep.Fault
import ConstantSweep.Text.CaseMap
import ConstantSweep.Yaml.Tag

set_option autoImplicit false

namespace ConstantSweep.Yaml

open ConstantSweep.Decimal
open ConstantSweep.Text

def truthWords : List (Text × Bool) :=
  [("yes", true), ("no", false), ("true", true), ("false", false), ("on", true), ("off", false)]

def boolOf (text : Text) : Except Fault Datum :=
  let word := Text.ofList (lower text.toList)
  match truthWords.lookup word with
  | some value => .ok (.bool value)
  | none => .error (.missingKey word)

-- A sign at the front of a number, and what follows it; there has to be something to look at.
def signOf : List Letter → Except Fault (Bool × List Letter)
  | [] => .error .indexOutOfRange
  | .char '-' :: rest => .ok (true, rest)
  | .char '+' :: rest => .ok (false, rest)
  | text => .ok (false, text)

def colonPieces : List Letter → List (List Letter)
  | [] => [[]]
  | .char ':' :: rest => [] :: colonPieces rest
  | c :: rest =>
      match colonPieces rest with
      | [] => [[c]]
      | piece :: more => (c :: piece) :: more

def integerIn (base : Nat) (text : List Letter) : Except Fault Int :=
  (readInteger base ⟨text⟩).mapError .integer

-- An integer: binary, hexadecimal, octal after a zero, to the base of sixty between colons, or
-- decimal. Underscores do not count.
def intOf (text : Text) : Except Fault Datum := do
  let (negative, digits) ← signOf (text.toList.filter (· != .char '_'))
  let size ← match digits with
    | [] => throw .indexOutOfRange
    | [.char '0'] => pure 0
    | .char '0' :: .char 'b' :: rest => integerIn 2 rest
    | .char '0' :: .char 'x' :: rest => integerIn 16 rest
    | .char '0' :: _ => integerIn 8 digits
    | _ =>
        if digits.contains (.char ':') then do
          let parts ← (colonPieces digits).mapM (integerIn 10)
          pure (parts.foldl (fun value part => value * 60 + part) 0)
        else integerIn 10 digits
  return .int (if negative then -size else size)

def floatIn (text : List Letter) : Except Fault Binary64 :=
  let word := Text.ofList text
  match readNumber word with
  | some value => .ok value
  | none => .error (.notANumber word)

def negate (negative : Bool) (value : Binary64) : Binary64 :=
  if negative then ⟨value.bits ^^^ ((1 : UInt64) <<< 63)⟩ else value

-- The sum of digits to the base of sixty, the last one first, each step rounded. The powers of sixty have
-- to be finite.
def sixtyFold (digits : List Binary64) : Except Fault Binary64 :=
  let step (state : Float × Nat) (digit : Binary64) : Except Fault (Float × Nat) :=
    let power := Binary64.ofInt state.2
    if power.isInfinite then .error .wholeTooLarge
    else .ok (state.1 + digit.toFloat * power.toFloat, state.2 * 60)
  (digits.reverse.foldlM step (0.0, 1)).map fun state => .ofFloat state.1

-- A number: a word for one that is not finite, digits to the base of sixty between colons, or
-- decimal. Underscores do not count. The word for what is not a number always gives the same one; where it
-- comes up otherwise it belongs to the node.
def floatOf (node : Nat) (text : Text) : Except Fault Datum := do
  let (negative, digits) ← signOf (lower (text.toList.filter (· != .char '_')))
  if Text.ofList digits == ".nan" then return .float .nan
  else
    let size ←
      if Text.ofList digits == ".inf" then pure (.infinity false)
      else if digits.contains (.char ':') then do sixtyFold (← (colonPieces digits).mapM floatIn)
      else floatIn digits
    return .float (if size.isNaN then .nanOf (node + 1) else negate negative size)

def sextet? (c : Char) : Option Nat :=
  if 'A' ≤ c && c ≤ 'Z' then some (c.toNat - 65)
  else if 'a' ≤ c && c ≤ 'z' then some (c.toNat - 71)
  else if c.isDigit then some (c.toNat + 4)
  else if c == '+' then some 62
  else if c == '/' then some 63
  else none

-- Bytes from groups of four characters. Characters outside of the alphabet are passed over; padding
-- that completes a group ends the text. `bits` holds the bits of the open group, `filled` how many of its
-- characters came, `pads` how many padding marks.
def bytesFrom (bits filled pads : Nat) : List Char → Except Fault (List UInt8)
  | [] => if filled = 0 then .ok [] else .error .document
  | c :: rest =>
      if c == '=' then
        if 2 ≤ filled && 4 ≤ filled + pads + 1 then .ok []
        else bytesFrom bits filled (if 2 ≤ filled then pads + 1 else pads) rest
      else match sextet? c with
        | none => bytesFrom bits filled pads rest
        | some sextet =>
            let bits := bits * 64 + sextet
            match filled with
            | 0 => bytesFrom sextet 1 0 rest
            | 1 => (bytesFrom (bits % 16) 2 0 rest).map ((bits / 16).toUInt8 :: ·)
            | 2 => (bytesFrom (bits % 4) 3 0 rest).map ((bits / 4).toUInt8 :: ·)
            | _ => (bytesFrom 0 0 0 rest).map (bits.toUInt8 :: ·)

def binaryOf (text : Text) : Except Fault Datum :=
  match text.toList.mapM Letter.char? with
  | some chars => if chars.all fun c => c.toNat < 128 then (bytesFrom 0 0 0 chars).map .bytes else .error .document
  | none => .error .document

def digitsBetween? (least most : Nat) (text : List Char) : Option (Nat × List Char) :=
  let digits := (text.take most).takeWhile Char.isDigit
  if digits.length < least then none
  else some (numberIn 10 digits, text.drop digits.length)

def afterChar? (c : Char) : List Char → Option (List Char)
  | first :: rest => if first == c then some rest else none
  | [] => none

structure Timestamp where
  year : Nat
  month : Nat
  day : Nat
  time : Option (Nat × Nat × Nat × List Char × Option Int)
  deriving Repr

def zone? (text : List Char) : Option (Option Int) :=
  let text := match text with
    | ['\n'] => []
    | text => text
  match text.dropWhile fun c => c == ' ' || c == '\t' with
  | [] => if text.isEmpty then some none else none
  | 'Z' :: rest => if rest.isEmpty || rest == ['\n'] then some (some 0) else none
  | sign :: rest =>
      if sign == '+' || sign == '-' then
        (digitsBetween? 1 2 rest).bind fun (hours, rest) =>
          let minutes? := match rest with
            | ':' :: rest => digitsBetween? 2 2 rest
            | rest => some (0, rest)
          minutes?.bind fun (minutes, rest) =>
            if rest.isEmpty || rest == ['\n'] then
              let seconds : Int := (hours * 3600 + minutes * 60 : Nat)
              some (some (if sign == '-' then -seconds else seconds))
            else none
      else none

def time? (text : List Char) : Option (Nat × Nat × Nat × List Char × Option Int) := do
  let rest ← match text with
    | 'T' :: rest => some rest
    | 't' :: rest => some rest
    | rest =>
        let after := rest.dropWhile fun c => c == ' ' || c == '\t'
        if after.length < rest.length then some after else none
  let (hour, rest) ← digitsBetween? 1 2 rest
  let rest ← afterChar? ':' rest
  let (minute, rest) ← digitsBetween? 2 2 rest
  let rest ← afterChar? ':' rest
  let (second, rest) ← digitsBetween? 2 2 rest
  let (fraction, rest) := match rest with
    | '.' :: rest => (rest.takeWhile Char.isDigit, rest.dropWhile Char.isDigit)
    | rest => ([], rest)
  let zone ← zone? rest
  return (hour, minute, second, fraction, zone)

def timestamp? (text : List Char) : Option Timestamp := do
  let (year, rest) ← digitsBetween? 4 4 text
  let rest ← afterChar? '-' rest
  let (month, rest) ← digitsBetween? 1 2 rest
  let rest ← afterChar? '-' rest
  let (day, rest) ← digitsBetween? 1 2 rest
  if rest.isEmpty || rest == ['\n'] then return ⟨year, month, day, none⟩
  else return ⟨year, month, day, some (← time? rest)⟩

def microseconds (fraction : List Char) : Nat :=
  let digits := fraction.take 6
  numberIn 10 (digits ++ List.replicate (6 - digits.length) '0')

def timestampOf (text : Text) : Except Fault Datum :=
  match (text.toList.mapM Letter.char?).bind timestamp? with
  | none => .error .missingAttribute
  | some stamp =>
      match stamp.time with
      | none => ((Date.make stamp.year stamp.month stamp.day).map .date).mapError .calendar
      | some (hour, minute, second, fraction, zone) =>
          ((Moment.make stamp.year stamp.month stamp.day hour minute second
            (microseconds fraction) zone).map .moment).mapError .calendar

def scalarOf (node : Nat) (tag : Tag) (text : Text) : Except Fault Datum :=
  match tag with
  | .text => .ok (.text text)
  | .null => .ok .null
  | .bool => boolOf text
  | .int => intOf text
  | .float => floatOf node text
  | .binary => binaryOf text
  | .timestamp => timestampOf text
  | _ => .error .document

end ConstantSweep.Yaml

import ConstantSweep.Json.Basic
import ConstantSweep.Text.Numeral

set_option autoImplicit false

namespace ConstantSweep.Json

open ConstantSweep.Text

def isSpace (c : Char) : Bool := c == ' ' || c == '\t' || c == '\n' || c == '\r'

def skipSpace (text : List Char) : List Char := text.dropWhile isSpace

def hexUnit? (a b c d : Char) : Option Nat :=
  if [a, b, c, d].all isHexadecimal then some (numberIn 16 [a, b, c, d]) else none

def isHighUnit (unit : Nat) : Bool := 0xd800 ≤ unit && unit < 0xdc00

def isLowUnit (unit : Nat) : Bool := 0xdc00 ≤ unit && unit < 0xe000

def escapeLetter? : Char → Option Char
  | '"' => some '"'
  | '\\' => some '\\'
  | '/' => some '/'
  | 'b' => some '\x08'
  | 'f' => some '\x0c'
  | 'n' => some '\n'
  | 'r' => some '\r'
  | 't' => some '\t'
  | _ => none

-- The letters up to the closing quotation mark, and what follows it. `high` is the first unit of a pair whose
-- second one is still to come; a unit without its partner stays alone.
def readString : Option Nat → List Char → Option (List Letter × List Char)
  | high, text =>
    let waiting : List Letter := match high with
      | some unit => [.ofCode unit]
      | none => []
    let push (letter : Letter) : List Letter × List Char → List Letter × List Char :=
      fun (more, rest) => (waiting ++ letter :: more, rest)
    match text with
    | [] => none
    | '"' :: rest => some (waiting, rest)
    | '\\' :: 'u' :: a :: b :: c :: d :: rest =>
        match hexUnit? a b c d with
        | none => none
        | some unit =>
            if isHighUnit unit then
              (readString (some unit) rest).map fun (more, rest) => (waiting ++ more, rest)
            else if isLowUnit unit then
              match high with
              | some first =>
                  (readString none rest).map fun (more, rest) =>
                    (.ofCode (0x10000 + (first - 0xd800) * 0x400 + (unit - 0xdc00)) :: more, rest)
              | none => (readString none rest).map (push (.ofCode unit))
            else (readString none rest).map (push (.ofCode unit))
    | '\\' :: letter :: rest =>
        match escapeLetter? letter with
        | some c => (readString none rest).map (push c)
        | none => none
    | c :: rest => if c.toNat < 32 then none else (readString none rest).map (push c)

def takeDigits? (text : List Char) : Option (List Char × List Char) :=
  let digits := text.takeWhile Char.isDigit
  if digits.isEmpty then none else some (digits, text.dropWhile Char.isDigit)

def takeFraction? : List Char → Option (List Char × List Char)
  | '.' :: rest => (takeDigits? rest).map fun (digits, rest) => ('.' :: digits, rest)
  | text => some ([], text)

def takeExponent? : List Char → Option (List Char × List Char)
  | mark :: sign :: rest =>
      if mark == 'e' || mark == 'E' then
        if sign == '+' || sign == '-' then
          (takeDigits? rest).map fun (digits, rest) => (mark :: sign :: digits, rest)
        else (takeDigits? (sign :: rest)).map fun (digits, rest) => (mark :: digits, rest)
      else some ([], mark :: sign :: rest)
  | text => some ([], text)

def readNumber (text : List Char) : Option (Json × List Char) :=
  let negative := text.head? == some '-'
  (takeDigits? (if negative then text.drop 1 else text)).bind fun (whole, rest) =>
    if whole.length > 1 && whole.head? == some '0' then none
    else (takeFraction? rest).bind fun (fraction, rest) =>
      (takeExponent? rest).map fun (exponent, rest) =>
        if fraction.isEmpty && exponent.isEmpty then
          let size : Int := (whole.foldl (fun value d => value * 10 + (d.toNat - 48)) 0 : Nat)
          (.int (if negative then -size else size), rest)
        else
          (.real (String.ofList ((if negative then ['-'] else []) ++ whole ++ fraction ++ exponent)), rest)

def afterWord? (word : String) (text : List Char) : Option (List Char) :=
  if word.toList.isPrefixOf text then some (text.drop word.length) else none

def readWord (text : List Char) : Option (Json × List Char) :=
  let words : List (String × Json) :=
    [("null", .null), ("true", .bool true), ("false", .bool false), ("NaN", .real "NaN"),
     ("Infinity", .real "Infinity"), ("-Infinity", .real "-Infinity")]
  words.findSome? fun (word, value) => (afterWord? word text).map fun rest => (value, rest)

mutual
def readValue : Nat → List Char → Option (Json × List Char)
  | 0, _ => none
  | fuel + 1, text =>
      match skipSpace text with
      | '"' :: rest => (readString none rest).map fun (body, rest) => (.string ⟨body⟩, rest)
      | '[' :: rest =>
          match skipSpace rest with
          | ']' :: rest => some (.array [], rest)
          | rest => (readItems fuel rest).map fun (items, rest) => (.array items, rest)
      | '{' :: rest =>
          match skipSpace rest with
          | '}' :: rest => some (.object [], rest)
          | rest => (readFields fuel rest).map fun (fields, rest) => (.object fields, rest)
      | text => (readWord text).orElse fun _ => readNumber text
def readItems : Nat → List Char → Option (List Json × List Char)
  | 0, _ => none
  | fuel + 1, text =>
      match readValue fuel text with
      | none => none
      | some (item, rest) =>
          match skipSpace rest with
          | ',' :: rest => (readItems fuel rest).map fun (items, rest) => (item :: items, rest)
          | ']' :: rest => some ([item], rest)
          | _ => none
def readFields : Nat → List Char → Option (List (Text × Json) × List Char)
  | 0, _ => none
  | fuel + 1, text =>
      match skipSpace text with
      | '"' :: rest =>
          match readString none rest with
          | none => none
          | some (name, rest) =>
              match skipSpace rest with
              | ':' :: rest =>
                  match readValue fuel rest with
                  | none => none
                  | some (value, rest) =>
                      match skipSpace rest with
                      | ',' :: rest =>
                          (readFields fuel rest).map fun (fields, rest) =>
                            ((⟨name⟩, value) :: fields, rest)
                      | '}' :: rest => some ([(⟨name⟩, value)], rest)
                      | _ => none
              | _ => none
      | _ => none
end

def parse? (text : String) : Option Json :=
  match readValue (text.length + 1) text.toList with
  | some (value, rest) => if (skipSpace rest).isEmpty then some value else none
  | none => none

end ConstantSweep.Json

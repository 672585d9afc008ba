import ConstantSweep.Fault
import ConstantSweep.Json.Basic
import ConstantSweep.Path
import ConstantSweep.Template

set_option autoImplicit false

namespace ConstantSweep.Datum

open ConstantSweep.Text

def toInteger : Datum → Except Fault Int
  | .bool true => .ok 1
  | .bool false => .ok 0
  | .int value => .ok value
  | .float value =>
      match value.truncate? with
      | some whole => .ok whole
      | none => .error (if value.isNaN then .integerOfNaN else .integerOfInfinity)
  | .text value => (readInteger 10 value).mapError .integer
  | .bytes value => (readIntegerBytes 10 value).mapError .integer
  | _ => .error .wrongType

-- The items of a value that has some: those of a list, the keys of a map, the letters of a text.
def elements (value : Datum) : Except Fault (List Datum) :=
  match value.unrolled with
  | .list items => .ok items
  | .tuple items => .ok items
  | .set items => .ok items
  | .map entries => .ok (entries.map (·.1))
  | .text value => .ok (value.toList.map fun letter => .text (.ofLetter letter))
  | .bytes value => .ok (value.map fun byte => .int byte.toNat)
  | _ => .error .wrongType

def mapEntries (value : Datum) : Except Fault (List (Datum × Datum)) :=
  match value.unrolled with
  | .map entries => .ok entries
  | _ => .error .missingAttribute

def written (value : Datum) : Except Fault Text :=
  if value.isWritable then .ok value.toText else .error (.integer .unwritable)

def faultAbout (value : Datum) (fault : Fault) : Fault :=
  if value.isWritable then fault else .integer .unwritable

def text? : Datum → Option Text
  | .text value => some value
  | _ => none

def path? (value : Datum) : Option Path := value.text?.map Path.ofText

-- The value as a template. Without a number it stays as it is; a number that can be written can be put into
-- a text, and into nothing else.
def render (template : Datum) (value : Option Int) : Except Fault Datum :=
  match template, value with
  | _, none => .ok template
  | .text body, some number =>
      if Text.isWritable number then .ok (.text (Template.render body (some number)))
      else .error (.integer .unwritable)
  | .bytes _, some number => .error (faultAbout (.int number) .wrongType)
  | .date _, some number => .error (faultAbout (.int number) .wrongType)
  | .moment _, some number => .error (faultAbout (.int number) .wrongType)
  | _, some _ => .error .missingAttribute

def numberText (value : Decimal.Binary64) : String :=
  if value.isNaN then "NaN"
  else if value.isInfinite then (if value.isNegative then "-Infinity" else "Infinity")
  else value.text

def keyText : Datum → Except Fault Text
  | .text value => .ok value
  | .null => .ok "null"
  | .bool true => .ok "true"
  | .bool false => .ok "false"
  | .int value => (Datum.int value).written
  | .float value => .ok (numberText value)
  | _ => .error .wrongType

mutual
def toJson : Datum → Except Fault Json
  | .null => .ok .null
  | .bool value => .ok (.bool value)
  | .int value => if Text.isWritable value then .ok (.int value) else .error (.integer .unwritable)
  | .float value => .ok (.real (numberText value))
  | .text value => .ok (.string value)
  | .list items => (itemsJson items).map .array
  | .tuple items => (itemsJson items).map .array
  | .map entries => (entriesJson entries).map .object
  | _ => .error .wrongType
def itemsJson : List Datum → Except Fault (List Json)
  | [] => .ok []
  | item :: items => do
      let first ← toJson item
      let rest ← itemsJson items
      return first :: rest
def entriesJson : List (Datum × Datum) → Except Fault (List (Text × Json))
  | [] => .ok []
  | (key, value) :: entries => do
      let name ← keyText key
      let first ← toJson value
      let rest ← entriesJson entries
      return (name, first) :: rest
end

end ConstantSweep.Datum

import ConstantSweep.Calendar
import ConstantSweep.Decimal.Shortest
import ConstantSweep.Text.Integer
import ConstantSweep.Text.Quoted

set_option autoImplicit false

namespace ConstantSweep

open ConstantSweep.Decimal
open ConstantSweep.Text

-- What tells the lists, maps and tuples of a document apart: a number for the list or the map, and a second
-- one that counts the tuples in it.
abbrev Label := Nat × Nat

inductive Datum where
  | null
  | bool (value : Bool)
  | int (value : Int)
  | float (value : Binary64)
  | text (value : Text)
  | bytes (value : List UInt8)
  | date (value : Date)
  | moment (value : Moment)
  | list (items : List Datum)
  | tuple (items : List Datum)
  | map (entries : List (Datum × Datum))
  | set (items : List Datum)
  | loop (label : Label) (body : Datum)
  | again (label : Label)
  deriving Repr, Inhabited

namespace Datum

-- The integer that the value equals, if there is one; the truth values count as one and zero.
def integer? : Datum → Option Int
  | .bool true => some 1
  | .bool false => some 0
  | .int value => some value
  | .float value => value.toInt?
  | _ => none

mutual
def subst (label : Label) (whole : Datum) : Datum → Datum
  | .list items => .list (substEach label whole items)
  | .tuple items => .tuple (substEach label whole items)
  | .map entries => .map (substEntries label whole entries)
  | .loop other body =>
      if other == label then .loop other body else .loop other (subst label whole body)
  | .again other => if other == label then whole else .again other
  | value => value
def substEach (label : Label) (whole : Datum) : List Datum → List Datum
  | [] => []
  | item :: items => subst label whole item :: substEach label whole items
def substEntries (label : Label) (whole : Datum) : List (Datum × Datum) → List (Datum × Datum)
  | [] => []
  | (key, value) :: entries => (key, subst label whole value) :: substEntries label whole entries
end

-- The list or the map itself where the value is one under a label. Its parts are complete values again.
def unrolled : Datum → Datum
  | .loop label body => subst label (.loop label body) body
  | value => value

def dots : Datum → Text
  | .map _ => "\x7b...\x7d"
  | .tuple _ => "(...)"
  | _ => "[...]"

mutual
-- The value as source text below those of the labels `above`: texts between quotation marks, and dots for
-- what is shown already.
def literalBelow (above : List (Label × Text)) : Datum → Text
  | .null => "None"
  | .bool true => "True"
  | .bool false => "False"
  | .int value => toString value
  | .float value => value.text
  | .text value => quoted value
  | .bytes value => quotedBytes value
  | .date value => value.literal
  | .moment value => value.literal
  | .list items => "[" ++ Text.intercalate ", " (literalsBelow above items) ++ "]"
  | .tuple [item] => "(" ++ literalBelow above item ++ ",)"
  | .tuple items => "(" ++ Text.intercalate ", " (literalsBelow above items) ++ ")"
  | .map entries => "\x7b" ++ Text.intercalate ", " (entryLiterals above entries) ++ "\x7d"
  | .set [] => "set()"
  | .set items => "\x7b" ++ Text.intercalate ", " (literalsBelow above items) ++ "\x7d"
  | .loop label body =>
      match above.lookup label with
      | some dots => dots
      | none => literalBelow ((label, body.dots) :: above) body
  | .again label => (above.lookup label).getD (dots .null)
def literalsBelow (above : List (Label × Text)) : List Datum → List Text
  | [] => []
  | item :: items => literalBelow above item :: literalsBelow above items
def entryLiterals (above : List (Label × Text)) : List (Datum × Datum) → List Text
  | [] => []
  | (key, value) :: entries =>
      (literalBelow above key ++ ": " ++ literalBelow above value) :: entryLiterals above entries
end

def literal (value : Datum) : Text := value.literalBelow []

def toText : Datum → Text
  | .text value => value
  | .date value => value.text
  | .moment value => value.text
  | value => value.literal

mutual
def isWritable : Datum → Bool
  | .int value => Text.isWritable value
  | .list items => areWritable items
  | .tuple items => areWritable items
  | .map entries => entriesAreWritable entries
  | .set items => areWritable items
  | .loop _ body => isWritable body
  | _ => true
def areWritable : List Datum → Bool
  | [] => true
  | item :: items => isWritable item && areWritable items
def entriesAreWritable : List (Datum × Datum) → Bool
  | [] => true
  | (key, value) :: entries => isWritable key && isWritable value && entriesAreWritable entries
end

def isTruthy : Datum → Bool
  | .null => false
  | .bool value => value
  | .int value => value != 0
  | .float value => !value.isZero
  | .text value => !value.isEmpty
  | .bytes value => !value.isEmpty
  | .date _ => true
  | .moment _ => true
  | .list items => !items.isEmpty
  | .tuple items => !items.isEmpty
  | .map entries => !entries.isEmpty
  | .set items => !items.isEmpty
  | .loop _ body => isTruthy body
  | .again _ => true

def isKey : Datum → Bool
  | .list _ => false
  | .map _ => false
  | .set _ => false
  | .loop _ _ => false
  | .again _ => false
  | .tuple items => keys items
  | _ => true
where
  keys : List Datum → Bool
    | [] => true
    | item :: items => isKey item && keys items

-- Equality of keys: numbers by their value, truth values being one and zero, moments by the instant,
-- everything else by kind and content. What is not a number equals itself alone, which its bits tell.
def sameKey : Datum → Datum → Bool
  | .null, .null => true
  | .text left, .text right => left == right
  | .bytes left, .bytes right => left == right
  | .date left, .date right => left == right
  | .moment left, .moment right => left.isSame right
  | .tuple left, .tuple right => sameKeys left right
  | .float left, .float right => left == right || (left.isZero && right.isZero)
  | left, right =>
      match left.integer?, right.integer? with
      | some left, some right => left == right
      | _, _ => false
where
  sameKeys : List Datum → List Datum → Bool
    | [], [] => true
    | left :: lefts, right :: rights => sameKey left right && sameKeys lefts rights
    | _, _ => false

def lookup? (entries : List (Datum × Datum)) (key : Text) : Option Datum :=
  (entries.find? fun entry => entry.1.sameKey (.text key)).map (·.2)

def insert (entries : List (Datum × Datum)) (key value : Datum) : List (Datum × Datum) :=
  if entries.any fun entry => entry.1.sameKey key then
    entries.map fun entry => if entry.1.sameKey key then (entry.1, value) else entry
  else entries ++ [(key, value)]

end Datum

end ConstantSweep

import ConstantSweep.Json.Basic
import ConstantSweep.Text.Quoted

set_option autoImplicit false

namespace ConstantSweep.Json

open ConstantSweep.Text

def unitEscape (unit : Nat) : List Char := ['\\', 'u'] ++ digitsIn 16 4 unit

-- A letter between quotation marks: printable ASCII stands for itself apart from the mark and the backslash;
-- what lies beyond the first plane is two units.
def escaped (letter : Letter) : List Char :=
  match letter with
  | .half _ => unitEscape letter.code
  | .char c =>
      if c == '"' then ['\\', '"']
      else if c == '\\' then ['\\', '\\']
      else if c == '\n' then ['\\', 'n']
      else if c == '\r' then ['\\', 'r']
      else if c == '\t' then ['\\', 't']
      else if c == '\x0c' then ['\\', 'f']
      else if c == '\x08' then ['\\', 'b']
      else if 32 ≤ c.toNat && c.toNat < 127 then [c]
      else if c.toNat < 0x10000 then unitEscape c.toNat
      else
        let offset := c.toNat - 0x10000
        unitEscape (0xd800 + offset / 0x400) ++ unitEscape (0xdc00 + offset % 0x400)

def stringChars (text : Text) : List Char := '"' :: text.toList.flatMap escaped ++ ['"']

structure Layout where
  opening : Nat → List Char
  between : Nat → List Char
  closing : Nat → List Char

def Layout.compact : Layout := ⟨fun _ => [], fun _ => [',', ' '], fun _ => []⟩

def Layout.indented : Layout :=
  let line (depth : Nat) : List Char := '\n' :: List.replicate (2 * depth) ' '
  ⟨fun depth => line (depth + 1), fun depth => ',' :: line (depth + 1), line⟩

mutual
def chars (layout : Layout) (depth : Nat) : Json → List Char
  | .null => ['n', 'u', 'l', 'l']
  | .bool true => ['t', 'r', 'u', 'e']
  | .bool false => ['f', 'a', 'l', 's', 'e']
  | .int value => (toString value).toList
  | .real text => text.toList
  | .string text => stringChars text
  | .array [] => ['[', ']']
  | .array (item :: items) =>
      '[' :: layout.opening depth ++ chars layout (depth + 1) item ++
        itemsChars layout depth items ++ layout.closing depth ++ [']']
  | .object [] => ['{', '}']
  | .object ((name, value) :: fields) =>
      '{' :: layout.opening depth ++ stringChars name ++ [':', ' '] ++
        chars layout (depth + 1) value ++ fieldsChars layout depth fields ++ layout.closing depth ++ ['}']
def itemsChars (layout : Layout) (depth : Nat) : List Json → List Char
  | [] => []
  | item :: items =>
      layout.between depth ++ chars layout (depth + 1) item ++ itemsChars layout depth items
def fieldsChars (layout : Layout) (depth : Nat) : List (Text × Json) → List Char
  | [] => []
  | (name, value) :: fields =>
      layout.between depth ++ stringChars name ++ [':', ' '] ++ chars layout (depth + 1) value ++
        fieldsChars layout depth fields
end

def compress (value : Json) : String := String.ofList (value.chars .compact 0)

def pretty (value : Json) : String := String.ofList (value.chars .indented 0)

end ConstantSweep.Json

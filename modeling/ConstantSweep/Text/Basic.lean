set_option autoImplicit false

namespace ConstantSweep

inductive Letter where
  | char (c : Char)
  | half (offset : Fin 2048)
  deriving DecidableEq, Repr

namespace Letter

instance : Inhabited Letter := ⟨.char ' '⟩

instance : Coe Char Letter := ⟨.char⟩

def firstHalf : Nat := 0xd800

def code : Letter → Nat
  | .char c => c.toNat
  | .half offset => firstHalf + offset.val

def isHalfCode (code : Nat) : Bool := firstHalf ≤ code && code < firstHalf + 2048

def ofCode (code : Nat) : Letter :=
  if isHalfCode code then .half (Fin.ofNat 2048 (code - firstHalf)) else .char (Char.ofNat code)

def isHalf : Letter → Bool
  | .char _ => false
  | .half _ => true

def char? : Letter → Option Char
  | .char c => some c
  | .half _ => none

def isChar (test : Char → Bool) : Letter → Bool
  | .char c => test c
  | .half _ => false

theorem is_half_code_iff (code : Nat) : isHalfCode code = true ↔ 0xd800 ≤ code ∧ code < 0xe000 := by
  rw [isHalfCode, Bool.and_eq_true, decide_eq_true_eq, decide_eq_true_eq]
  exact Iff.rfl

theorem half_code (offset : Fin 2048) : isHalfCode (half offset).code = true := by
  have bound := offset.isLt
  rw [is_half_code_iff, code, firstHalf]
  omega

theorem char_code (c : Char) : isHalfCode (char c).code = false := by
  have valid : c.toNat < 0xd800 ∨ (0xdfff < c.toNat ∧ c.toNat < 0x110000) := c.valid
  rw [Bool.eq_false_iff]
  intro holds
  rw [is_half_code_iff, code] at holds
  omega

theorem of_code_code (letter : Letter) : ofCode letter.code = letter := by
  cases letter with
  | char c => rw [ofCode, char_code, if_neg Bool.false_ne_true, code, Char.ofNat_toNat]
  | half offset =>
      rw [ofCode, half_code, if_pos rfl, code, Nat.add_sub_cancel_left]
      exact congrArg half (Fin.ext (Nat.mod_eq_of_lt offset.isLt))

theorem code_injective (first second : Letter) (same : first.code = second.code) : first = second := by
  rw [← of_code_code first, same, of_code_code]

end Letter

structure Text where
  ofList ::
  toList : List Letter
  deriving DecidableEq, Repr, Inhabited

namespace Text

def ofChars (chars : List Char) : Text := ⟨chars.map .char⟩

def ofString (text : String) : Text := ofChars text.toList

instance : Coe String Text := ⟨ofString⟩

def empty : Text := ⟨[]⟩

def ofLetter (letter : Letter) : Text := ⟨[letter]⟩

def isEmpty (text : Text) : Bool := text.toList.isEmpty

def length (text : Text) : Nat := text.toList.length

def append (first second : Text) : Text := ⟨first.toList ++ second.toList⟩

instance : Append Text := ⟨append⟩

def intercalate (separator : Text) (texts : List Text) : Text :=
  ⟨separator.toList.intercalate (texts.map toList)⟩

def join (texts : List Text) : Text := ⟨texts.flatMap toList⟩

def string? (text : Text) : Option String := (text.toList.mapM Letter.char?).map String.ofList

def shown (text : Text) : String := String.ofList (text.toList.map fun letter => letter.char?.getD '\ufffd')

-- Texts are ordered by the code points of their letters, the first ones counting most. A text does not come
-- after itself.
def isBefore (left right : Text) : Bool := go left.toList right.toList
where
  go : List Letter → List Letter → Bool
    | [], _ => true
    | _ :: _, [] => false
    | first :: rest, other :: others =>
        first.code < other.code || (first.code == other.code && go rest others)

theorem string_of_string (text : String) : (ofString text).string? = some text := by
  have chars (cs : List Char) : (cs.map Letter.char).mapM Letter.char? = some cs := by
    induction cs with
    | nil => rfl
    | cons c cs ih => simp [Letter.char?, ih]
  simp [string?, ofString, ofChars, chars]

end Text

end ConstantSweep

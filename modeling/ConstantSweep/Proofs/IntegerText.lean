import Mathlib.Data.Nat.Digits.Defs
import ConstantSweep.Proofs.NumberText

set_option autoImplicit false

namespace ConstantSweep.Text

inductive SpellsDigits : List Letter → List Nat → Prop where
  | last (letter : Letter) (digit : Nat) : digitValue? letter = some digit → SpellsDigits [letter] [digit]
  | next (letter : Letter) (digit : Nat) (rest : List Letter) (digits : List Nat) : digitValue? letter = some digit →
      SpellsDigits rest digits → SpellsDigits (letter :: rest) (digit :: digits)
  | spaced (letter : Letter) (digit : Nat) (rest : List Letter) (digits : List Nat) : digitValue? letter = some digit →
      SpellsDigits rest digits → SpellsDigits (letter :: .char '_' :: rest) (digit :: digits)

inductive SpellsSign : Bool → List Letter → Prop where
  | absent : SpellsSign false []
  | plus : SpellsSign false [.char '+']
  | minus : SpellsSign true [.char '-']

def signed (negative : Bool) (digits : List Nat) : Int :=
  if negative then -(Nat.ofDigits 10 digits.reverse : Nat) else (Nat.ofDigits 10 digits.reverse : Nat)

inductive SpellsInteger : List Letter → Int → Prop where
  | parts (negative : Bool) (sign text : List Letter) (digits : List Nat) : SpellsSign negative sign →
      SpellsDigits text digits → digits.length ≤ digitLimit → SpellsInteger (sign ++ text) (signed negative digits)

section Digits

theorem digit_value_small (letter : Letter) (digit : Nat) (known : digitValue? letter = some digit) : digit < 10 := by
  rw [digitValue?] at known
  split at known
  · cases letter with
    | half offset => cases known
    | char c =>
        by_cases numeric : c.isDigit = true
        · simp only [Letter.isChar, numeric, if_true, Letter.code, Option.some.injEq] at known
          have bounds := Char.isDigit_iff_toNat.mp numeric
          rw [show '9'.toNat = 57 from rfl] at bounds
          omega
        · simp [Letter.isChar, numeric] at known
  · obtain ⟨first, found, rfl⟩ := Option.map_eq_some_iff.mp known
    have within := List.find?_some found
    simp only [Bool.and_eq_true, decide_eq_true_eq] at within
    omega

theorem half_no_digit (offset : Fin 2048) : digitValue? (.half offset) = none := by
  have apart : ∀ first ∈ digitZeros, first + 10 ≤ Letter.firstHalf ∨ Letter.firstHalf + 2048 ≤ first := by decide
  have bound := offset.isLt
  rw [digitValue?, if_neg (by rw [Letter.code, Letter.firstHalf]; omega), Option.map_eq_none_iff, List.find?_eq_none]
  intro first listed within
  rw [Bool.and_eq_true, decide_eq_true_eq, decide_eq_true_eq, Letter.code] at within
  have away := apart first listed
  omega

theorem alpha_bounds (c : Char) (alpha : c.isAlpha = true) :
    65 ≤ c.toNat ∧ c.toNat < 128 ∧ (c.isLower = true → 97 ≤ c.toNat) := by
  have upper : c.isUpper = true ↔ 65 ≤ c.toNat ∧ c.toNat ≤ 90 := by
    change decide (c.val ≥ 65 ∧ c.val ≤ 90) = true ↔ _
    simp [UInt32.le_iff_toNat_le]
  have lower : c.isLower = true ↔ 97 ≤ c.toNat ∧ c.toNat ≤ 122 := by
    change (decide (c.val ≥ 97) && decide (c.val ≤ 122)) = true ↔ _
    simp [UInt32.le_iff_toNat_le]
  change (c.isUpper || c.isLower) = true at alpha
  rw [Bool.or_eq_true, upper, lower] at alpha
  rw [lower]
  omega

theorem alpha_no_digit (c : Char) (alpha : c.isAlpha = true) :
    digitValue? (.char c) = none ∧ 10 ≤ hexadecimalValue c := by
  obtain ⟨low, high, lower⟩ := alpha_bounds c alpha
  have other : c.isDigit = false := by
    rw [Bool.eq_false_iff]
    intro numeric
    have small := (Char.isDigit_iff_toNat.mp numeric).2
    rw [show '9'.toNat = 57 from rfl] at small
    omega
  constructor
  · rw [digitValue?, if_pos (by rw [Letter.code]; omega), Letter.isChar, other, if_neg Bool.false_ne_true]
  · rw [hexadecimalValue, other, if_neg Bool.false_ne_true]
    split
    · rename_i small
      have bound := lower small
      omega
    · omega

theorem digit_in_ten (letter : Letter) : digitIn? 10 letter = digitValue? letter := by
  cases letter with
  | half offset => rw [half_no_digit, digitIn?, Option.filter_none]
  | char c =>
      rw [digitIn?]
      by_cases alpha : c.isAlpha = true
      · obtain ⟨none, large⟩ := alpha_no_digit c alpha
        rw [if_pos alpha, none, Option.filter_some_eq_none]
        simpa using large
      · rw [if_neg alpha]
        cases known : digitValue? (.char c) with
        | none => rfl
        | some digit =>
            have small := digit_value_small _ digit known
            simp [small]

-- What may follow a digit: nothing, other digits, or an underscore with digits after it.
inductive Follows : List Letter → List Nat → Prop where
  | ended : Follows [] []
  | more (text : List Letter) (digits : List Nat) : SpellsDigits text digits → Follows text digits
  | spaced (text : List Letter) (digits : List Nat) : SpellsDigits text digits → Follows (.char '_' :: text) digits

theorem spells_cons_iff (letter : Letter) (rest : List Letter) (digits : List Nat) :
    SpellsDigits (letter :: rest) digits ↔
      ∃ digit others, digits = digit :: others ∧ digitValue? letter = some digit ∧ Follows rest others := by
  constructor
  · intro spells
    cases spells with
    | last _ digit known => exact ⟨digit, [], rfl, known, .ended⟩
    | next _ digit _ others known spells => exact ⟨digit, others, rfl, known, .more rest others spells⟩
    | spaced _ digit text others known spells => exact ⟨digit, others, rfl, known, .spaced text others spells⟩
  · rintro ⟨digit, others, rfl, known, follows⟩
    cases follows with
    | ended => exact .last letter digit known
    | more _ _ spells => exact .next letter digit rest others known spells
    | spaced text _ spells => exact .spaced letter digit text others known spells

theorem follows_cons_iff (letter : Letter) (rest : List Letter) (digits : List Nat) :
    Follows (letter :: rest) digits ↔
      SpellsDigits (letter :: rest) digits ∨ (letter = .char '_' ∧ SpellsDigits rest digits) := by
  constructor
  · intro follows
    cases follows with
    | more _ _ spells => exact .inl spells
    | spaced _ _ spells => exact .inr ⟨rfl, spells⟩
  · rintro (spells | ⟨rfl, spells⟩)
    · exact .more _ digits spells
    · exact .spaced rest digits spells

theorem spells_nil (digits : List Nat) : ¬ SpellsDigits [] digits := by
  intro spells
  cases spells

theorem follows_nil_iff (digits : List Nat) : Follows [] digits ↔ digits = [] := by
  constructor
  · intro follows
    cases follows with
    | ended => rfl
    | more _ _ spells => exact absurd spells (spells_nil digits)
  · rintro rfl
    exact .ended

theorem value_of_digits (digits : List Nat) : valueOf 10 digits = Nat.ofDigits 10 digits.reverse := by
  induction digits using List.reverseRecOn with
  | nil => rfl
  | append_singleton digits digit ih =>
      rw [valueOf, List.foldl_append, ← valueOf, ih, List.reverse_append, List.reverse_singleton, List.singleton_append,
        Nat.ofDigits_cons]
      simp only [List.foldl_cons, List.foldl_nil]
      omega

end Digits

section Reading

theorem underscore_no_digit : digitValue? (.char '_') = none := by decide

-- Reading comes to the end exactly over what may follow a digit, and after an underscore exactly over digits.
theorem digits_from_iff (text : List Letter) (digits : List Nat) :
    (digitsFrom 10 false text = some (digits, []) ↔ Follows text digits) ∧
      (digitsFrom 10 true text = some (digits, []) ↔ SpellsDigits text digits) := by
  induction text generalizing digits with
  | nil =>
      rw [follows_nil_iff]
      refine ⟨?_, ?_⟩
      · simp [digitsFrom, eq_comm]
      · simp [digitsFrom, spells_nil]
  | cons letter rest ih =>
      rw [follows_cons_iff, spells_cons_iff, digitsFrom, digitsFrom, digit_in_ten]
      cases known : digitValue? letter with
      | some digit =>
          have numeric : letter ≠ .char '_' := by
            rintro rfl
            cases underscore_no_digit.symm.trans known
          have further : (digitsFrom 10 false rest).map (fun read => (digit :: read.1, read.2)) = some (digits, []) ↔
              ∃ first others, digits = first :: others ∧ some digit = some first ∧ Follows rest others := by
            simp only [← (ih _).1]
            constructor
            · intro read
              obtain ⟨⟨more, tail⟩, found, same⟩ := Option.map_eq_some_iff.mp read
              cases same
              exact ⟨digit, more, rfl, rfl, found⟩
            · rintro ⟨first, others, rfl, same, found⟩
              cases same
              rw [found]
              rfl
          exact ⟨further.trans (by simp [numeric]), further⟩
      | none =>
          by_cases apart : letter = .char '_'
          · subst apart
            simp [← (ih _).2]
          · simp [apart]

theorem take_digits_iff (text : List Letter) (digits : List Nat) :
    (takeDigits 10 text = some (digits, []) ∧ digits ≠ []) ↔ SpellsDigits text digits := by
  cases text with
  | nil => simp [takeDigits, digitsFrom, spells_nil]
  | cons letter rest =>
      by_cases apart : letter = .char '_'
      · subst apart
        simp [takeDigits, spells_cons_iff, underscore_no_digit]
      · have same : takeDigits 10 (letter :: rest) = digitsFrom 10 false (letter :: rest) := by
          rw [takeDigits]
          rintro more whole
          exact apart (List.cons.inj whole).1
        rw [same, (digits_from_iff (letter :: rest) digits).1, follows_cons_iff, spells_cons_iff]
        constructor
        · rintro ⟨spells | ⟨here, _⟩, _⟩
          · exact spells
          · exact absurd here apart
        · rintro ⟨digit, others, rfl, spells⟩
          exact ⟨.inl ⟨digit, others, rfl, spells⟩, List.cons_ne_nil _ _⟩

theorem trim_unblank (blank : Letter → Bool) (text : List Letter) (none : ∀ letter ∈ text, blank letter = false) :
    trim blank text = text := by
  have kept (letters : List Letter) (none : ∀ letter ∈ letters, blank letter = false) :
      letters.dropWhile blank = letters := by
    cases letters with
    | nil => rfl
    | cons letter rest => rw [List.dropWhile_cons, none letter (List.mem_cons_self ..), if_neg Bool.false_ne_true]
  rw [trim, kept text none, kept text.reverse (by simpa using none), List.reverse_reverse]

theorem take_sign_parts (text : List Letter) :
    ∃ sign, SpellsSign (takeSign text).1 sign ∧ text = sign ++ (takeSign text).2 := by
  unfold takeSign
  split
  · exact ⟨_, .minus, rfl⟩
  · exact ⟨_, .plus, rfl⟩
  · exact ⟨_, .absent, rfl⟩

theorem signed_digits (negative : Bool) (sign text : List Letter) (digits : List Nat) (spells : SpellsSign negative sign)
    (spelled : SpellsDigits text digits) : takeSign (sign ++ text) = (negative, text) := by
  cases spells with
  | plus => rfl
  | minus => rfl
  | absent =>
      cases text with
      | nil => exact absurd spelled (spells_nil digits)
      | cons letter rest =>
          obtain ⟨digit, _, _, known, _⟩ := (spells_cons_iff letter rest digits).mp spelled
          rw [List.nil_append]
          unfold takeSign
          split
          · rename_i whole
            cases whole
            cases known
          · rename_i whole
            cases whole
            cases known
          · rfl

theorem unmarked_base (text : List Letter) : dropBaseMark 10 text = text := by
  unfold dropBaseMark
  split <;> rfl

theorem read_parts_iff (text : List Letter) (value : Int) (bare : ∀ letter ∈ text, surroundsNumber letter = false) :
    readInteger 10 ⟨text⟩ = .ok value ↔
      ∃ digits, (takeDigits 10 (takeSign text).2 = some (digits, []) ∧ digits ≠ []) ∧ digits.length ≤ digitLimit ∧
        value = signed (takeSign text).1 digits := by
  rw [readInteger, readDigits, trim_unblank surroundsNumber text bare]
  dsimp only
  rw [unmarked_base]
  cases taken : takeDigits 10 (takeSign text).2 with
  | none => simp
  | some found =>
      obtain ⟨digits, rest⟩ := found
      simp only [Option.some.injEq, Prod.mk.injEq, value_of_digits]
      by_cases long : digitLimit < digits.length
      · simp only [beq_self_eq_true, Bool.true_and, decide_eq_true long, if_true, reduceCtorEq, false_iff]
        rintro ⟨_, ⟨⟨rfl, _⟩, _⟩, short, _⟩
        omega
      · simp only [beq_self_eq_true, Bool.true_and, decide_eq_false long, Bool.false_eq_true, if_false]
        cases digits with
        | nil => simp
        | cons digit digits =>
            cases rest with
            | nil =>
                constructor
                · intro read
                  exact ⟨_, ⟨⟨rfl, rfl⟩, List.cons_ne_nil _ _⟩, Nat.le_of_not_lt long, (Except.ok.inj read).symm⟩
                · rintro ⟨_, ⟨⟨rfl, _⟩, _⟩, _, rfl⟩
                  rfl
            | cons letter rest => simp

theorem read_integer_iff (text : List Letter) (value : Int) (bare : ∀ letter ∈ text, surroundsNumber letter = false) :
    readInteger 10 ⟨text⟩ = .ok value ↔ SpellsInteger text value := by
  rw [read_parts_iff text value bare]
  constructor
  · rintro ⟨digits, read, short, rfl⟩
    obtain ⟨sign, spells, whole⟩ := take_sign_parts text
    have parts := SpellsInteger.parts _ sign _ digits spells ((take_digits_iff _ digits).mp read) short
    rwa [← whole] at parts
  · rintro ⟨negative, sign, body, digits, spells, spelled, short⟩
    rw [signed_digits negative sign body digits spells spelled]
    exact ⟨digits, (take_digits_iff body digits).mpr spelled, short, rfl⟩

theorem chars_spell (chars : List Char) (numeric : Json.AreDigits chars) :
    SpellsDigits (chars.map .char) (chars.map fun c => c.toNat - 48) := by
  obtain ⟨given, digits⟩ := numeric
  induction chars with
  | nil => exact absurd rfl given
  | cons c rest ih =>
      have digit := digits c (List.mem_cons_self ..)
      have known : digitValue? (.char c) = some (c.toNat - 48) := by
        have bounds := (Char.isDigit_iff_toNat.mp digit).2
        rw [show '9'.toNat = 57 from rfl] at bounds
        exact digit_value_ascii c (by omega) digit
      cases rest with
      | nil => exact .last (.char c) _ known
      | cons next rest =>
          exact .next (.char c) _ _ _ known (ih (List.cons_ne_nil _ _) fun other member =>
            digits other (List.mem_cons_of_mem _ member))

theorem signed_numeral (value : Int) :
    signed (decide (value < 0)) ((Nat.toDigits 10 value.natAbs).map fun c => c.toNat - 48) = value := by
  have whole : Nat.ofDigits 10 ((Nat.toDigits 10 value.natAbs).map fun c => c.toNat - 48).reverse = value.natAbs := by
    rw [← value_of_digits, valueOf, List.foldl_map]
    exact Json.to_digits_value value.natAbs
  rw [signed, whole]
  exact Json.sign_magnitude value

theorem numeral_spells (value : Int) (writable : isWritable value = true) :
    SpellsInteger (Text.ofString (toString value)).toList value := by
  have sign : SpellsSign (decide (value < 0)) ((Json.signChars (decide (value < 0))).map .char) := by
    cases decide (value < 0) with
    | false => exact .absent
    | true => exact .minus
  have short : ((Nat.toDigits 10 value.natAbs).map fun c => c.toNat - 48).length ≤ digitLimit := by
    have power (limit : Nat) : Nat.pow 10 limit = 10 ^ limit := rfl
    rw [isWritable, decide_eq_true_eq, power] at writable
    rwa [List.length_map, Nat.length_toDigits_le_iff (by decide) (by decide)]
  have parts := SpellsInteger.parts _ _ _ _ sign (chars_spell _ (Json.to_digits_digits value.natAbs)) short
  rwa [signed_numeral, ← List.map_append, ← Json.int_chars] at parts

end Reading

end ConstantSweep.Text

import Mathlib.Algebra.Group.Nat.Defs
import Mathlib.Data.List.DropRight
import ConstantSweep.Datum.Conversion

set_option autoImplicit false

namespace ConstantSweep.Json

def AreDigits (text : List Char) : Prop := text ≠ [] ∧ ∀ c ∈ text, c.isDigit = true

-- Digits before the point: a zero does not stand in front of others.
def IsWhole (text : List Char) : Prop := AreDigits text ∧ (1 < text.length → text.head? ≠ some '0')

inductive IsFraction : List Char → Prop where
  | absent : IsFraction []
  | digits (digits : List Char) : AreDigits digits → IsFraction ('.' :: digits)

inductive IsExponent : List Char → Prop where
  | absent : IsExponent []
  | digits (sign : Char) (digits : List Char) : (sign = '+' ∨ sign = '-') → AreDigits digits →
      IsExponent ('e' :: sign :: digits)

def signChars (negative : Bool) : List Char := if negative then ['-'] else []

inductive IsUnsigned : List Char → Prop where
  | parts (whole fraction exponent : List Char) : IsWhole whole → IsFraction fraction → IsExponent exponent →
      (fraction ≠ [] ∨ exponent ≠ []) → IsUnsigned (whole ++ (fraction ++ exponent))

inductive IsReal : List Char → Prop where
  | nan : IsReal ['N', 'a', 'N']
  | infinite (negative : Bool) : IsReal (signChars negative ++ ['I', 'n', 'f', 'i', 'n', 'i', 't', 'y'])
  | decimal (negative : Bool) (text : List Char) : IsUnsigned text → IsReal (signChars negative ++ text)

theorem are_digits_append (first second : List Char) (digits : AreDigits first)
    (more : ∀ c ∈ second, c.isDigit = true) : AreDigits (first ++ second) := by
  refine ⟨List.append_ne_nil_of_left_ne_nil digits.1 second, ?_⟩
  rw [List.forall_mem_append]
  exact ⟨digits.2, more⟩

theorem zero_digits : AreDigits ['0'] := ⟨List.cons_ne_nil _ _, List.forall_mem_singleton.mpr rfl⟩

theorem zeros_digits (count : Nat) : ∀ c ∈ List.replicate count '0', c.isDigit = true := by
  intro c member
  rw [List.eq_of_mem_replicate member]
  rfl

theorem to_digits_digits (number : Nat) : AreDigits (Nat.toDigits 10 number) := by
  refine ⟨Nat.toDigits_ne_nil, fun c member => ?_⟩
  exact Nat.isDigit_of_mem_toDigits (b := 10) (by decide) (by decide) member

theorem to_digits_value (number : Nat) :
    (Nat.toDigits 10 number).foldl (fun value c => value * 10 + (c.toNat - 48)) 0 = number := by
  have same := Nat.ofDigitChars_ten_toDigits (n := number)
  simp only [Nat.ofDigitChars_eq_foldl, Nat.mul_comm 10] at same
  exact same

theorem sign_magnitude (value : Int) :
    (if decide (value < 0) = true then -(value.natAbs : Int) else value.natAbs) = value := by
  by_cases negative : value < 0
  · rw [if_pos (decide_eq_true negative)]
    omega
  · rw [if_neg (mt of_decide_eq_true negative)]
    omega

theorem int_chars (value : Int) :
    (toString value).toList = signChars (decide (value < 0)) ++ Nat.toDigits 10 value.natAbs := by
  rw [Int.toString_eq_repr, Int.repr_eq_if]
  by_cases negative : value < 0
  · rw [if_neg (by omega), decide_eq_true negative, String.toList_append, Nat.toList_repr,
      show (-value).toNat = value.natAbs by omega]
    rfl
  · rw [if_pos (by omega), decide_eq_false negative, Nat.toList_repr, show value.toNat = value.natAbs by omega]
    rfl

end ConstantSweep.Json

namespace ConstantSweep.Decimal

open ConstantSweep.Json

structure Leads (text : List Char) : Prop where
  digits : AreDigits text
  lead : text.head? ≠ some '0'

theorem leads_whole (digits : List Char) (leads : Leads digits) : IsWhole digits := ⟨leads.digits, fun _ => leads.lead⟩

theorem leads_front (first digits : List Char) (found : first ≠ []) (begins : first <+: digits)
    (leads : Leads digits) : Leads first := by
  obtain ⟨rest, rfl⟩ := begins
  refine ⟨⟨found, fun c member => leads.digits.2 c (List.mem_append_left _ member)⟩, ?_⟩
  have lead := leads.lead
  rwa [List.head?_append_of_ne_nil _ found] at lead

theorem leads_append (digits rest : List Char) (leads : Leads digits) (more : ∀ c ∈ rest, c.isDigit = true) :
    Leads (digits ++ rest) := by
  refine ⟨are_digits_append digits rest leads.digits more, ?_⟩
  rw [List.head?_append_of_ne_nil _ leads.digits.1]
  exact leads.lead

theorem to_digits_leads (number : Nat) (positive : 0 < number) : Leads (Nat.toDigits 10 number) := by
  refine ⟨to_digits_digits number, ?_⟩
  induction number using Nat.strong_induction_on with
  | _ number ih =>
      by_cases single : number < 10
      · have counts : ∀ digit < 10, 0 < digit → Nat.digitChar digit ≠ '0' := by decide
        rw [Nat.toDigits_of_lt_base single]
        exact fun zero => counts number single positive (Option.some.inj zero)
      · rw [Nat.toDigits_of_base_le (by decide) (by omega), List.head?_append_of_ne_nil _ Nat.toDigits_ne_nil]
        exact ih (number / 10) (by omega) (by omega)

theorem stripped_leads (digits : List Char) (leads : Leads digits) :
    Leads (digits.reverse.dropWhile (· == '0')).reverse := by
  refine leads_front _ digits ?_ (List.rdropWhile_prefix (· == '0') digits) leads
  intro none
  have zeros := List.rdropWhile_eq_nil_iff.mp none
  cases digits with
  | nil => exact leads.digits.1 rfl
  | cons first rest =>
      have zero := beq_iff_eq.mp (zeros first (List.mem_cons_self ..))
      exact leads.lead (congrArg some zero)

def PowerAtMost (scale : Int) (ratio : Nat × Nat) : Prop :=
  10 ^ scale.toNat * ratio.2 ≤ ratio.1 * 10 ^ (-scale).toNat

theorem power_at_most_lower (scale : Int) (ratio : Nat × Nat) (least : PowerAtMost scale ratio) :
    PowerAtMost (scale - 1) ratio := by
  unfold PowerAtMost at *
  have fewer : 10 ^ (scale - 1).toNat ≤ 10 ^ scale.toNat := Nat.pow_le_pow_right (by decide) (by omega)
  have more : 10 ^ (-scale).toNat ≤ 10 ^ (-(scale - 1)).toNat := Nat.pow_le_pow_right (by decide) (by omega)
  calc 10 ^ (scale - 1).toNat * ratio.2
      ≤ 10 ^ scale.toNat * ratio.2 := Nat.mul_le_mul_right _ fewer
    _ ≤ ratio.1 * 10 ^ (-scale).toNat := least
    _ ≤ ratio.1 * 10 ^ (-(scale - 1)).toNat := Nat.mul_le_mul_left _ more

theorem digit_count_lower (number : Nat) (positive : 0 < number) :
    10 ^ ((Nat.toDigits 10 number).length - 1) ≤ number := by
  by_cases single : (Nat.toDigits 10 number).length - 1 = 0
  · rw [single]
    exact positive
  · have longer := mt (Nat.length_toDigits_le_iff (b := 10) (n := number) (by decide) (Nat.pos_of_ne_zero single)).mpr
    omega

theorem digit_count_upper (number : Nat) : number < 10 ^ (Nat.toDigits 10 number).length :=
  (Nat.length_toDigits_le_iff (by decide) (List.length_pos_of_ne_nil Nat.toDigits_ne_nil)).mp (Nat.le_refl _)

theorem magnitude_at_most (ratio : Nat × Nat) (positive : 0 < ratio.1) :
    PowerAtMost (magnitudeOf ratio - 1) ratio := by
  have lower := digit_count_lower ratio.1 positive
  have upper := digit_count_upper ratio.2
  have some : 0 < (Nat.toDigits 10 ratio.1).length := List.length_pos_of_ne_nil Nat.toDigits_ne_nil
  rw [magnitudeOf]
  generalize (Nat.toDigits 10 ratio.1).length = above at *
  generalize (Nat.toDigits 10 ratio.2).length = below at *
  split
  · rename_i fits
    rw [Int.add_sub_cancel]
    rw [ratioLe, decide_eq_true_eq, GridPoint.ratio] at fits
    unfold PowerAtMost
    dsimp only at fits
    split at fits
    · rename_i least
      have none : (-((above : Int) - below)).toNat = 0 := by omega
      rw [Nat.one_mul, Nat.mul_one] at fits
      rw [none, Nat.pow_zero, Nat.mul_one]
      exact fits
    · rename_i most
      have none : ((above : Int) - below).toNat = 0 := by omega
      rw [none, Nat.pow_zero]
      exact fits
  · unfold PowerAtMost
    by_cases most : below ≤ above - 1
    · have scale : ((above : Int) - below - 1).toNat + below = above - 1 := by omega
      have none : (-((above : Int) - below - 1)).toNat = 0 := by omega
      calc 10 ^ ((above : Int) - below - 1).toNat * ratio.2
          ≤ 10 ^ ((above : Int) - below - 1).toNat * 10 ^ below := Nat.mul_le_mul_left _ (Nat.le_of_lt upper)
        _ = 10 ^ (above - 1) := by rw [← Nat.pow_add, scale]
        _ ≤ ratio.1 := lower
        _ = ratio.1 * 10 ^ (-((above : Int) - below - 1)).toNat := by rw [none, Nat.pow_zero, Nat.mul_one]
    · have scale : above - 1 + (-((above : Int) - below - 1)).toNat = below := by omega
      have none : ((above : Int) - below - 1).toNat = 0 := by omega
      calc 10 ^ ((above : Int) - below - 1).toNat * ratio.2
          = ratio.2 := by rw [none, Nat.pow_zero, Nat.one_mul]
        _ ≤ 10 ^ below := Nat.le_of_lt upper
        _ = 10 ^ (above - 1) * 10 ^ (-((above : Int) - below - 1)).toNat := by rw [← Nat.pow_add, scale]
        _ ≤ ratio.1 * 10 ^ (-((above : Int) - below - 1)).toNat := Nat.mul_le_mul_right _ lower

theorem neighbours_positive (ratio : Nat × Nat) (scale : Int) (positive : 0 < ratio.2)
    (least : PowerAtMost scale ratio) :
    0 < (neighbours ratio scale).1.count ∧ 0 < (neighbours ratio scale).2.count := by
  refine ⟨?_, Nat.succ_pos _⟩
  unfold PowerAtMost at least
  rw [neighbours]
  dsimp only
  split
  · rename_i up
    have none : (-scale).toNat = 0 := by omega
    rw [none, Nat.pow_zero, Nat.mul_one, Nat.mul_comm] at least
    exact Nat.div_pos least (Nat.mul_pos positive (Nat.pow_pos (by decide)))
  · rename_i down
    have none : scale.toNat = 0 := by omega
    rw [none, Nat.pow_zero, Nat.one_mul] at least
    exact Nat.div_pos least positive

theorem nearer_positive (ratio : Nat × Nat) (low high : GridPoint) (lower : 0 < low.count) (upper : 0 < high.count) :
    0 < (nearer ratio low high).count := by
  unfold nearer
  dsimp only
  split_ifs <;> assumption

theorem first_grid_positive (x : Binary64) (fuel : Nat) (scale : Int) (positive : 0 < x.magnitude.2)
    (least : PowerAtMost scale x.magnitude) : 0 < (firstGrid x fuel scale).count := by
  obtain ⟨low, high⟩ := neighbours_positive x.magnitude scale positive least
  induction fuel generalizing scale with
  | zero => exact low
  | succ fuel ih =>
      have finer := power_at_most_lower scale x.magnitude least
      obtain ⟨lowFiner, highFiner⟩ := neighbours_positive x.magnitude (scale - 1) positive finer
      rw [firstGrid]
      dsimp only
      split_ifs
      · exact nearer_positive _ _ _ low high
      · exact low
      · exact high
      · exact ih (scale - 1) finer lowFiner highFiner

theorem magnitude_positive (x : Binary64) (nonzero : x.isZero = false) : 0 < x.magnitude.1 ∧ 0 < x.magnitude.2 := by
  have counts : 0 < x.significand := by
    rw [Binary64.significand]
    split
    · rename_i least
      rw [Binary64.isZero, least, Bool.true_and] at nonzero
      exact Nat.pos_of_ne_zero (ne_of_beq_false nonzero)
    · exact Nat.add_pos_left (Nat.pow_pos (by decide)) _
  rw [Binary64.magnitude]
  split
  · exact ⟨Nat.mul_pos counts (Nat.pow_pos (by decide)), Nat.one_pos⟩
  · exact ⟨counts, Nat.pow_pos (by decide)⟩

theorem shortest_leads (x : Binary64) (nonzero : x.isZero = false) : Leads x.shortest.digits := by
  obtain ⟨above, below⟩ := magnitude_positive x nonzero
  have least := magnitude_at_most x.magnitude above
  have count := first_grid_positive x 17 _ below least
  exact stripped_leads _ (to_digits_leads _ count)

theorem layout_positional (digits : List Char) (whole : Nat) (leads : Leads digits) (positive : 0 < whole) :
    let padded := digits ++ List.replicate (whole - digits.length) '0'
    IsUnsigned (padded.take whole ++ ['.'] ++ (if (padded.drop whole).isEmpty then ['0'] else padded.drop whole)) := by
  intro padded
  have all : Leads padded := leads_append digits _ leads (zeros_digits (whole - digits.length))
  have begins : padded.take whole ≠ [] := by
    rw [Ne, List.take_eq_nil_iff]
    exact fun none => none.elim (Nat.ne_of_gt positive) all.digits.1
  have before := leads_whole _ (leads_front _ padded begins (List.take_prefix whole padded) all)
  have after : AreDigits (if (padded.drop whole).isEmpty then ['0'] else padded.drop whole) := by
    split
    · exact zero_digits
    · rename_i found
      refine ⟨fun none => found (List.isEmpty_iff.mpr none), fun c member => ?_⟩
      exact all.digits.2 c (List.mem_of_mem_drop member)
  have parts := IsUnsigned.parts _ _ [] before (.digits _ after) .absent (.inl (List.cons_ne_nil _ _))
  rw [List.append_nil] at parts
  rw [List.append_assoc]
  exact parts

theorem layout_scientific (digits : List Char) (power : Int) :
    Leads digits → IsUnsigned ((match digits with
      | [] => ['0']
      | [single] => [single]
      | first :: rest => first :: '.' :: rest) ++ ['e', if power < 0 then '-' else '+'] ++
        (if (Nat.toDigits 10 power.natAbs).length < 2 then '0' :: Nat.toDigits 10 power.natAbs
          else Nat.toDigits 10 power.natAbs)) := by
  intro leads
  have digitsOf := to_digits_digits power.natAbs
  generalize Nat.toDigits 10 power.natAbs = exponent at *
  have padded : AreDigits (if exponent.length < 2 then '0' :: exponent else exponent) := by
    split
    · exact are_digits_append ['0'] exponent zero_digits digitsOf.2
    · exact digitsOf
  have sign : (if power < 0 then '-' else '+') = '+' ∨ (if power < 0 then '-' else '+') = '-' := by
    split <;> simp
  have marked := IsExponent.digits _ _ sign padded
  cases digits with
  | nil => exact absurd rfl leads.digits.1
  | cons first rest =>
      have single := leads_whole _ (leads_front [first] _ (List.cons_ne_nil _ _) ⟨rest, rfl⟩ leads)
      cases rest with
      | nil => exact .parts [first] [] _ single .absent marked (.inr (List.cons_ne_nil _ _))
      | cons second rest =>
          have more : AreDigits (second :: rest) :=
            ⟨List.cons_ne_nil _ _, fun c member => leads.digits.2 c (List.mem_cons_of_mem _ member)⟩
          have parts := IsUnsigned.parts [first] _ _ single (.digits _ more) marked (.inr (List.cons_ne_nil _ _))
          rw [List.append_assoc]
          exact parts

theorem layout_unsigned (d : Digits) (leads : Leads d.digits) : IsUnsigned d.layout := by
  unfold Digits.layout
  split
  · split
    · have fraction : AreDigits (List.replicate (-d.point).toNat '0' ++ d.digits) := by
        refine ⟨List.append_ne_nil_of_right_ne_nil _ leads.digits.1, ?_⟩
        rw [List.forall_mem_append]
        exact ⟨zeros_digits _, leads.digits.2⟩
      have parts := IsUnsigned.parts ['0'] _ [] ⟨zero_digits, by decide⟩ (.digits _ fraction) .absent
        (.inl (List.cons_ne_nil _ _))
      rw [List.append_nil] at parts
      rw [List.append_assoc]
      exact parts
    · exact layout_positional d.digits d.point.toNat leads (by omega)
  · exact layout_scientific d.digits (d.point - 1) leads

theorem sign_text (negative : Bool) : (if negative then "-" else "").toList = signChars negative := by
  cases negative <;> rfl

theorem number_text_real (x : Binary64) : IsReal (Datum.numberText x).toList := by
  rw [Datum.numberText]
  by_cases missing : x.isNaN = true
  · rw [if_pos missing]
    exact .nan
  rw [if_neg missing]
  by_cases infinite : x.isInfinite = true
  · rw [if_pos infinite]
    split
    · exact .infinite true
    · exact .infinite false
  rw [if_neg infinite, Binary64.text, if_neg missing, if_neg infinite]
  cases zero : x.isZero with
  | true =>
      rw [if_pos rfl, String.toList_append, sign_text]
      refine .decimal _ ['0', '.', '0'] ?_
      exact .parts ['0'] ['.', '0'] [] ⟨zero_digits, by decide⟩ (.digits _ zero_digits) .absent
        (.inl (List.cons_ne_nil _ _))
  | false =>
      rw [if_neg Bool.false_ne_true, String.toList_append, sign_text, String.toList_ofList]
      exact .decimal _ _ (layout_unsigned x.shortest (shortest_leads x zero))

end ConstantSweep.Decimal

import Mathlib.Data.List.Infix
import ConstantSweep.Proofs.NumberText
import ConstantSweep.Template

set_option autoImplicit false

namespace ConstantSweep.Template

open ConstantSweep.Text

-- One pass from left to right: where a pattern begins, the value is put in its place, and every other letter is kept.
inductive Substitutes (patterns : List (List Letter)) (value : List Letter) : List Letter → List Letter → Prop where
  | done : Substitutes patterns value [] []
  | put (pattern rest result : List Letter) : pattern ∈ patterns → Substitutes patterns value rest result →
      Substitutes patterns value (pattern ++ rest) (value ++ result)
  | kept (letter : Letter) (rest result : List Letter) : (∀ pattern ∈ patterns, ¬ pattern <+: letter :: rest) →
      Substitutes patterns value rest result → Substitutes patterns value (letter :: rest) (letter :: result)

def Apart (word other : List Letter) : Prop := ∀ letter ∈ word, letter ∉ other

-- The pattern does not begin inside the word, whatever follows it.
def Clear (pattern word : List Letter) : Prop :=
  ∀ early late rest, word = early ++ late → late ≠ [] → ¬ pattern <+: late ++ rest

section Replacing

variable (pattern value : List Letter)

theorem replace_from_drop (count : Nat) (text : List Letter) :
    replaceFrom pattern value count text = replaceFrom pattern value 0 (text.drop count) := by
  induction text generalizing count with
  | nil => cases count <;> rfl
  | cons letter rest ih =>
      cases count with
      | zero => rfl
      | succ count => exact ih count

theorem replace_all_put (rest : List Letter) (some : pattern ≠ []) :
    replaceAll pattern value (pattern ++ rest) = value ++ replaceAll pattern value rest := by
  obtain ⟨mark, word, rfl⟩ := List.exists_cons_of_ne_nil some
  have begins : (mark :: word).isPrefixOf (mark :: (word ++ rest)) = true :=
    List.isPrefixOf_iff_prefix.mpr (List.prefix_append (mark :: word) rest)
  rw [replaceAll, List.cons_append, replaceFrom, begins, replace_from_drop]
  simp [replaceAll]

theorem replace_all_kept (letter : Letter) (rest : List Letter) (other : ¬ pattern <+: letter :: rest) :
    replaceAll pattern value (letter :: rest) = letter :: replaceAll pattern value rest := by
  have begins : pattern.isPrefixOf (letter :: rest) = false := by
    rw [Bool.eq_false_iff]
    exact fun begins => other (List.isPrefixOf_iff_prefix.mp begins)
  rw [replaceAll, replaceFrom, begins, Bool.and_false, if_neg Bool.false_ne_true]
  rfl

theorem replace_all_clear (word rest : List Letter) (clear : Clear pattern word) :
    replaceAll pattern value (word ++ rest) = word ++ replaceAll pattern value rest := by
  induction word with
  | nil => rfl
  | cons letter word ih =>
      have here := clear [] (letter :: word) rest rfl (List.cons_ne_nil _ _)
      have further : Clear pattern word := by
        intro early late more parts left
        exact clear (letter :: early) late more (by rw [parts, List.cons_append]) left
      rw [List.cons_append, replace_all_kept pattern value letter (word ++ rest) here, ih further, List.cons_append]

theorem replace_all_substitutes (some : pattern ≠ []) (text : List Letter) :
    Substitutes [pattern] value text (replaceAll pattern value text) := by
  -- A pattern is passed over as a whole, so the recursion is on the length.
  induction short : text.length using Nat.strong_induction_on generalizing text with
  | _ length ih =>
      subst short
      cases text with
      | nil => exact .done
      | cons letter rest =>
          by_cases begins : pattern <+: letter :: rest
          · obtain ⟨after, same⟩ := begins
            have shorter : after.length < (letter :: rest).length := by
              rw [← same, List.length_append]
              exact Nat.lt_add_of_pos_left (List.length_pos_of_ne_nil some)
            rw [← same, replace_all_put pattern value after some]
            exact .put pattern after _ (List.mem_singleton_self _) (ih after.length shorter after rfl)
          · rw [replace_all_kept pattern value letter rest begins]
            refine .kept letter rest _ ?_ (ih rest.length (Nat.lt_succ_self _) rest rfl)
            intro other member
            rw [List.mem_singleton.mp member]
            exact begins

end Replacing

section Passing

variable {patterns : List (List Letter)} {value : List Letter}

-- A word that has nothing in common with the value is in no place of the result where the template does not have it.
theorem word_before (word template result : List Letter) (apart : Apart word value) (some : value ≠ [])
    (passes : Substitutes patterns value template result) (begins : word <+: result) : word <+: template := by
  induction passes generalizing word with
  | done => exact begins
  | put pattern rest result listed passes ih =>
      cases word with
      | nil => exact List.nil_prefix
      | cons letter word =>
          obtain ⟨first, more, rfl⟩ := List.exists_cons_of_ne_nil some
          obtain ⟨same, _⟩ := List.cons_prefix_cons.mp begins
          exact absurd (same ▸ List.mem_cons_self ..) (apart letter (List.mem_cons_self ..))
  | kept letter rest result other passes ih =>
      cases word with
      | nil => exact List.nil_prefix
      | cons first word =>
          obtain ⟨same, goesOn⟩ := List.cons_prefix_cons.mp begins
          have left := ih word (fun letter member => apart letter (List.mem_cons_of_mem _ member)) goesOn
          exact List.cons_prefix_cons.mpr ⟨same, left⟩

theorem infix_past_value (pattern result : List Letter) (apart : Apart pattern value) (some : pattern ≠ [])
    (inside : pattern <:+: value ++ result) : pattern <:+: result := by
  induction value with
  | nil => exact inside
  | cons letter rest ih =>
      rcases List.infix_cons_iff.mp inside with begins | inside
      · obtain ⟨mark, word, rfl⟩ := List.exists_cons_of_ne_nil some
        obtain ⟨rfl, _⟩ := List.cons_prefix_cons.mp begins
        exact absurd (List.mem_cons_self ..) (apart mark (List.mem_cons_self ..))
      · exact ih (fun other member listed => apart other member (List.mem_cons_of_mem _ listed)) inside

theorem none_left (pattern template result : List Letter) (listed : pattern ∈ patterns) (apart : Apart pattern value)
    (some : pattern ≠ []) (filled : value ≠ []) (passes : Substitutes patterns value template result) :
    ¬ pattern <:+: result := by
  induction passes with
  | done => exact fun inside => some (List.infix_nil.mp inside)
  | put other rest result _ passes ih => exact fun inside => ih (infix_past_value pattern result apart some inside)
  | kept letter rest result other passes ih =>
      intro inside
      rcases List.infix_cons_iff.mp inside with begins | inside
      · have whole := Substitutes.kept letter rest result other passes
        exact other pattern listed (word_before pattern _ _ apart filled whole begins)
      · exact ih inside

theorem apart_clear (pattern : List Letter) (apart : Apart pattern value) (some : pattern ≠ []) : Clear pattern value := by
  rintro early late rest rfl left begins
  obtain ⟨mark, word, rfl⟩ := List.exists_cons_of_ne_nil some
  obtain ⟨first, more, rfl⟩ := List.exists_cons_of_ne_nil left
  obtain ⟨rfl, _⟩ := List.cons_prefix_cons.mp begins
  exact apart mark (List.mem_cons_self ..) (List.mem_append_right early (List.mem_cons_self ..))

theorem passes_join (first second : List Letter) (apart : Apart second value) (someFirst : first ≠ [])
    (someSecond : second ≠ []) (filled : value ≠ []) (clear : Clear first second) (template : List Letter) :
    Substitutes [first, second] value template (replaceAll second value (replaceAll first value template)) := by
  induction short : template.length using Nat.strong_induction_on generalizing template with
  | _ length ih =>
      subst short
      have shorter (pattern rest : List Letter) (some : pattern ≠ []) : rest.length < (pattern ++ rest).length := by
        rw [List.length_append]
        exact Nat.lt_add_of_pos_left (List.length_pos_of_ne_nil some)
      cases template with
      | nil => exact .done
      | cons letter rest =>
          by_cases begins : first <+: letter :: rest
          · obtain ⟨after, same⟩ := begins
            rw [← same] at ih ⊢
            rw [replace_all_put first value after someFirst,
              replace_all_clear second value value _ (apart_clear second apart someSecond)]
            exact .put first after _ (by simp) (ih after.length (shorter first after someFirst) after rfl)
          by_cases beginsToo : second <+: letter :: rest
          · obtain ⟨after, same⟩ := beginsToo
            rw [← same] at ih ⊢
            rw [replace_all_clear first value second after clear, replace_all_put second value _ someSecond]
            exact .put second after _ (by simp) (ih after.length (shorter second after someSecond) after rfl)
          have unmade : ¬ second <+: letter :: replaceAll first value rest := by
            intro made
            rw [← replace_all_kept first value letter rest begins] at made
            exact beginsToo (word_before second _ _ apart filled
              (replace_all_substitutes first value someFirst _) made)
          rw [replace_all_kept first value letter rest begins, replace_all_kept second value letter _ unmade]
          refine .kept letter rest _ ?_ (ih rest.length (Nat.lt_succ_self _) rest rfl)
          intro pattern member
          rcases List.mem_cons.mp member with rfl | member
          · exact begins
          · rw [List.mem_singleton.mp member]
            exact beginsToo

theorem substitutes_none (template : List Letter) (none : ∀ pattern ∈ patterns, ¬ pattern <:+: template) :
    Substitutes patterns value template template := by
  induction template with
  | nil => exact .done
  | cons letter rest ih =>
      refine .kept letter rest rest ?_ (ih ?_)
      · exact fun pattern listed begins => none pattern listed begins.isInfix
      · exact fun pattern listed inside => none pattern listed (List.infix_cons inside)

end Passing

section Numbers

theorem number_letters (value : Int) :
    (Text.ofString (toString value)).toList ≠ [] ∧
      ∀ letter ∈ (Text.ofString (toString value)).toList, ∃ c : Char, letter = .char c ∧ (c = '-' ∨ c.isDigit = true) := by
  have digits := Json.to_digits_digits value.natAbs
  rw [Text.ofString, Text.ofChars, Json.int_chars]
  refine ⟨?_, ?_⟩
  · rw [ne_eq, List.map_eq_nil_iff, List.append_eq_nil_iff]
    exact fun empty => digits.1 empty.2
  · intro letter member
    obtain ⟨c, listed, rfl⟩ := List.mem_map.mp member
    refine ⟨c, rfl, ?_⟩
    rcases List.mem_append.mp listed with sign | digit
    · cases negative : decide (value < 0) <;> simp_all [Json.signChars]
    · exact .inr (digits.2 c digit)

theorem placeholder_apart (placeholder : Text) (listed : placeholder ∈ placeholders) (value : Int) :
    Apart placeholder.toList (Text.ofString (toString value)).toList := by
  have foreign : ∀ placeholder ∈ placeholders, ∀ letter ∈ placeholder.toList,
      letter.isChar (fun c => c == '-' || c.isDigit) = false := by decide
  intro letter member number
  obtain ⟨c, rfl, numeric⟩ := (number_letters value).2 letter number
  have other := foreign placeholder listed _ member
  rcases numeric with rfl | digit
  · cases other
  · simp [Letter.isChar, digit] at other

theorem prefix_zip (pattern late rest : List Letter) (begins : pattern <+: late ++ rest) :
    ∀ pair ∈ pattern.zip late, pair.1 = pair.2 := by
  induction pattern generalizing late with
  | nil => simp
  | cons letter pattern ih =>
      cases late with
      | nil => simp
      | cons first late =>
          obtain ⟨same, goesOn⟩ := List.cons_prefix_cons.mp begins
          rw [List.zip_cons_cons, List.forall_mem_cons]
          exact ⟨same, ih late goesOn⟩

theorem differing_clear (pattern word : List Letter)
    (differ : ∀ late ∈ word.tails, late ≠ [] → ∃ pair ∈ pattern.zip late, pair.1 ≠ pair.2) : Clear pattern word := by
  rintro early late rest rfl left begins
  obtain ⟨pair, both, different⟩ := differ late ((List.mem_tails _ _).mpr (List.suffix_append early late)) left
  exact different (prefix_zip pattern late rest begins pair both)

theorem placeholder_some (placeholder : Text) (listed : placeholder ∈ placeholders) : placeholder.toList ≠ [] := by
  have all : ∀ placeholder ∈ placeholders, placeholder.toList ≠ [] := by decide
  exact all placeholder listed

theorem fill_substitutes (template : Text) (value : Int) :
    Substitutes (placeholders.map Text.toList) (Text.ofString (toString value)).toList template.toList
      (fill template (toString value)).toList := by
  have second : Text.ofString "\x7bvalue\x7d" ∈ placeholders := by decide
  exact passes_join _ _ (placeholder_apart _ second value) (by decide) (by decide) (number_letters value).1
    (differing_clear _ _ (by decide)) template.toList

theorem fill_leaves_none (template : Text) (value : Int) (placeholder : Text) (listed : placeholder ∈ placeholders) :
    ¬ placeholder.toList <:+: (fill template (toString value)).toList :=
  none_left placeholder.toList template.toList _ (List.mem_map_of_mem listed) (placeholder_apart placeholder listed value)
    (placeholder_some placeholder listed) (number_letters value).1 (fill_substitutes template value)

end Numbers

end ConstantSweep.Template

import Mathlib.Data.List.Permutation
import ConstantSweep.Proofs.Instantiation

set_option autoImplicit false

namespace ConstantSweep.Template

open ConstantSweep.Text

def Uncut (patterns : List (List Letter)) (first second : List Letter) : Prop :=
  ∀ pattern ∈ patterns, ∀ early late, pattern = early ++ late → early ≠ [] → late ≠ [] → early <:+ first →
    ¬ late <+: second

-- No pattern is empty, and none begins another one: at most one of them begins at any place.
structure IsCode (patterns : List (List Letter)) : Prop where
  some : ∀ pattern ∈ patterns, pattern ≠ []
  apart : ∀ pattern ∈ patterns, ∀ other ∈ patterns, pattern <+: other → pattern = other

section Passes

variable {patterns : List (List Letter)} {value : List Letter}

theorem substitutes_congr (others : List (List Letter)) (template result : List Letter)
    (same : ∀ pattern, pattern ∈ patterns ↔ pattern ∈ others) (passes : Substitutes patterns value template result) :
    Substitutes others value template result := by
  induction passes with
  | done => exact .done
  | put pattern rest result listed _ ih => exact .put pattern rest result ((same pattern).mp listed) ih
  | kept letter rest result other _ ih =>
      exact .kept letter rest result (fun pattern listed => other pattern ((same pattern).mpr listed)) ih

theorem put_substitutes (code : IsCode patterns) (pattern rest result : List Letter) (listed : pattern ∈ patterns)
    (passes : Substitutes patterns value (pattern ++ rest) result) :
    ∃ more, result = value ++ more ∧ Substitutes patterns value rest more := by
  generalize whole : pattern ++ rest = template at passes
  cases passes with
  | done => exact absurd (List.append_eq_nil_iff.mp whole).1 (code.some pattern listed)
  | put other after more listedToo passes =>
      have same : pattern = other := by
        rcases List.prefix_or_prefix_of_prefix (List.prefix_append pattern rest)
          (whole ▸ List.prefix_append other after) with begins | begins
        · exact code.apart pattern listed other listedToo begins
        · exact (code.apart other listedToo pattern listed begins).symm
      subst same
      obtain rfl := List.append_cancel_left whole
      exact ⟨more, rfl, passes⟩
  | kept letter after more other passes => exact absurd ⟨rest, whole⟩ (other pattern listed)

theorem kept_substitutes (letter : Letter) (rest result : List Letter)
    (other : ∀ pattern ∈ patterns, ¬ pattern <+: letter :: rest)
    (passes : Substitutes patterns value (letter :: rest) result) :
    ∃ more, result = letter :: more ∧ Substitutes patterns value rest more := by
  generalize whole : letter :: rest = template at passes
  cases passes with
  | done => cases whole
  | put pattern after more listed passes => exact absurd ⟨after, whole.symm⟩ (other pattern listed)
  | kept first after more _ passes =>
      cases whole
      exact ⟨more, rfl, passes⟩

theorem substitutes_unique (code : IsCode patterns) (template first second : List Letter)
    (passes : Substitutes patterns value template first) (again : Substitutes patterns value template second) :
    second = first := by
  induction passes generalizing second with
  | done =>
      generalize whole : ([] : List Letter) = template at again
      cases again with
      | done => rfl
      | put pattern rest result listed _ =>
          exact absurd (List.append_eq_nil_iff.mp whole.symm).1 (code.some pattern listed)
      | kept letter rest result _ _ => cases whole
  | put pattern rest result listed _ ih =>
      obtain ⟨more, rfl, later⟩ := put_substitutes code pattern rest second listed again
      rw [ih more later]
  | kept letter rest result other _ ih =>
      obtain ⟨more, rfl, later⟩ := kept_substitutes letter rest second other again
      rw [ih more later]

-- The letters of a kind that the value has none of are those outside the patterns, which is what a pass leaves that
-- puts nothing in their places.
theorem substitutes_left (test : Letter → Bool) (none : value.filter test = []) (template result : List Letter)
    (passes : Substitutes patterns value template result) :
    ∃ left, Substitutes patterns [] template left ∧ result.filter test = left.filter test := by
  induction passes with
  | done => exact ⟨[], .done, rfl⟩
  | put pattern rest result listed _ ih =>
      obtain ⟨left, passes, same⟩ := ih
      refine ⟨left, .put pattern rest left listed passes, ?_⟩
      rw [List.filter_append, none, same, List.nil_append]
  | kept letter rest result other _ ih =>
      obtain ⟨left, passes, same⟩ := ih
      refine ⟨letter :: left, .kept letter rest left other passes, ?_⟩
      rw [List.filter_cons, List.filter_cons, same]

-- A pattern that begins in the first text and not in the second does not lie within the first one, so it is cut.
theorem substitutes_append (template more first second : List Letter) (uncut : Uncut patterns template more)
    (passes : Substitutes patterns value template first) (later : Substitutes patterns value more second) :
    Substitutes patterns value (template ++ more) (first ++ second) := by
  induction passes with
  | done => exact later
  | put pattern rest result listed _ ih =>
      rw [List.append_assoc, List.append_assoc]
      refine .put pattern _ _ listed (ih ?_)
      intro other member early late parts started goesOn ends
      exact uncut other member early late parts started goesOn (ends.trans (List.suffix_append pattern rest))
  | kept letter rest result other _ ih =>
      refine .kept letter _ _ ?_ (ih ?_)
      · intro pattern listed begins
        have front : letter :: rest <+: (letter :: rest) ++ more := List.prefix_append _ _
        rcases List.prefix_or_prefix_of_prefix begins front with within | ⟨late, parts⟩
        · exact other pattern listed within
        · have left : late ≠ [] := by
            rintro rfl
            rw [List.append_nil] at parts
            exact other pattern listed (parts ▸ List.prefix_rfl)
          rw [← parts] at begins
          exact uncut pattern listed (letter :: rest) late parts.symm (List.cons_ne_nil _ _) left List.suffix_rfl
            ((List.prefix_append_right_inj (letter :: rest)).mp begins)
      · intro pattern member early late parts started goesOn ends
        exact uncut pattern member early late parts started goesOn (ends.trans (List.suffix_cons letter rest))

end Passes

def patterns : List (List Letter) := placeholders.map Text.toList

def numeral (value : Int) : List Letter := (Text.ofString (toString value)).toList

def isBrace (letter : Letter) : Bool := letter == Letter.char '\x7b' || letter == Letter.char '\x7d'

theorem patterns_code : IsCode patterns := ⟨by decide, by decide⟩

theorem ordered_substitutes (order : List Text) (same : order.Perm placeholders) (template : Text) (value : Int) :
    Substitutes patterns (numeral value) template.toList
      (order.foldl (fun text placeholder => replaceAll placeholder.toList (numeral value) text) template.toList) := by
  have listed := List.mem_permutations'.mpr same
  have orders : placeholders.permutations' = [placeholders, placeholders.reverse] := by decide
  rw [orders, List.mem_cons, List.mem_singleton] at listed
  rcases listed with rfl | rfl
  · exact fill_substitutes template value
  · have first : Text.ofString "\x7bv\x7d" ∈ placeholders := by decide
    refine substitutes_congr _ template.toList _ ?_ (passes_join _ _ (placeholder_apart _ first value) (by decide)
      (by decide) (number_letters value).1 (differing_clear _ _ (by decide)) template.toList)
    intro pattern
    rw [patterns, ← List.mem_reverse]
    rfl

theorem numeral_braceless (value : Int) : (numeral value).filter isBrace = [] := by
  rw [List.filter_eq_nil_iff]
  intro letter member brace
  obtain ⟨c, rfl, numeric⟩ := (number_letters value).2 letter member
  rw [isBrace, Bool.or_eq_true, beq_iff_eq, beq_iff_eq, Letter.char.injEq, Letter.char.injEq] at brace
  rcases numeric with rfl | digit
  · revert brace
    decide
  · rcases brace with rfl | rfl <;> cases digit

-- The text is the template with the number in it, by one pass, and nothing of it is left to be filled.
structure IsFilling (template : Text) (value : Int) (text : Text) : Prop where
  onePass : ∀ result, Substitutes patterns (numeral value) template.toList result ↔ result = text.toList
  anyOrder : ∀ order : List Text, order.Perm placeholders →
    order.foldl (fun text placeholder => replaceAll placeholder.toList (numeral value) text) template.toList = text.toList
  noneLeft : ∀ placeholder ∈ placeholders, ¬ placeholder.toList <:+: text.toList
  again : ∀ other, Text.isWritable other = true → (Datum.text text).render (some other) = .ok (.text text)
  braces : ∃ outside, Substitutes patterns [] template.toList outside ∧
    text.toList.filter isBrace = outside.filter isBrace

theorem fill_filling (template : Text) (value : Int) : IsFilling template value (fill template (toString value)) := by
  have passes := fill_substitutes template value
  refine ⟨?_, ?_, fill_leaves_none template value, ?_, ?_⟩
  · intro result
    constructor
    · exact substitutes_unique patterns_code template.toList _ result passes
    · rintro rfl
      exact passes
  · intro order same
    exact substitutes_unique patterns_code template.toList _ _ passes (ordered_substitutes order same template value)
  · intro other writable
    have unfilled : ∀ pattern ∈ patterns, ¬ pattern <:+: (fill template (toString value)).toList := by
      intro pattern listed
      obtain ⟨placeholder, one, rfl⟩ := List.mem_map.mp listed
      exact fill_leaves_none template value placeholder one
    have still := substitutes_unique patterns_code _ _ _ (substitutes_none _ unfilled)
      (fill_substitutes (fill template (toString value)) other)
    rw [Sweep.render_written (some other) (Sweep.writes_some other writable)]
    exact congrArg (fun letters => Except.ok (Datum.text ⟨letters⟩)) still
  · exact substitutes_left isBrace (numeral_braceless value) template.toList _ passes

theorem fill_append (first second : Text) (value : Int) (uncut : Uncut patterns first.toList second.toList) :
    fill (first ++ second) (toString value) = fill first (toString value) ++ fill second (toString value) := by
  have joined := substitutes_append first.toList second.toList _ _ uncut (fill_substitutes first value)
    (fill_substitutes second value)
  have same := substitutes_unique patterns_code _ _ _ joined (fill_substitutes (first ++ second) value)
  exact congrArg Text.ofList same

-- A template takes a number that can be written in a single pass, and a template of two parts takes it part by part.
theorem render_is_one_pass (template : Text) (value : Int) (writable : Text.isWritable value = true) :
    ∃ text, (Datum.text template).render (some value) = .ok (.text text) ∧ IsFilling template value text ∧
      (∀ config : Sweep.SweepConfig, config.template = .text template → config.replacement value = .ok text) ∧
      ∀ first second, template = first ++ second → Uncut patterns first.toList second.toList →
        ∃ early late, (Datum.text first).render (some value) = .ok (.text early) ∧
          (Datum.text second).render (some value) = .ok (.text late) ∧ text = early ++ late := by
  have rendered (text : Text) : (Datum.text text).render (some value) = .ok (.text (fill text (toString value))) :=
    Sweep.render_written (some value) (Sweep.writes_some value writable) text
  refine ⟨_, rendered template, fill_filling template value, ?_, ?_⟩
  · intro config given
    rw [Sweep.SweepConfig.replacement, given, rendered]
    rfl
  · rintro first second rfl uncut
    exact ⟨_, _, rendered first, rendered second, fill_append first second value uncut⟩

theorem render_is_one_pass_once :
    Text.isWritable 8 = true ∧ ∃ text, (Datum.text "\x7b\x7bv\x7dalue\x7d").render (some 8) = .ok (.text text) ∧
      IsFilling "\x7b\x7bv\x7dalue\x7d" 8 text ∧ text = "\x7b8alue\x7d" := by
  have writable : Text.isWritable 8 = true := by decide +kernel
  obtain ⟨text, rendered, filling, _⟩ := render_is_one_pass "\x7b\x7bv\x7dalue\x7d" 8 writable
  refine ⟨writable, text, rendered, filling, ?_⟩
  rw [Sweep.render_written (some 8) (Sweep.writes_some 8 writable)] at rendered
  cases rendered
  decide +kernel

end ConstantSweep.Template

import ConstantSweep.Proofs.IntegerText
import ConstantSweep.Proofs.Substitution
import ConstantSweep.Sweep.Values

set_option autoImplicit false

namespace ConstantSweep.Text

section Runs

variable {α : Type} {separates : α → Bool}

-- A text with its runs: between gaps of separators, and with nothing but a separator after each of them.
inductive HasRuns (separates : α → Bool) : List α → List (List α) → Prop where
  | none (gap : List α) : (∀ c ∈ gap, separates c = true) → HasRuns separates gap []
  | run (gap part rest : List α) (parts : List (List α)) : (∀ c ∈ gap, separates c = true) → part ≠ [] →
      (∀ c ∈ part, separates c = false) → (∀ next ∈ rest.head?, separates next = true) → HasRuns separates rest parts →
      HasRuns separates (gap ++ (part ++ rest)) (part :: parts)

theorem runs_of_apart (c : α) (rest : List α) (apart : separates c = true) :
    runsOf separates (c :: rest) = runsOf separates rest := by
  rw [runsOf.eq_def]
  simp [apart]

theorem runs_of_last (c : α) (rest : List α) (here : separates c = false) (ends : ∀ next ∈ rest.head?, separates next = true) :
    runsOf separates (c :: rest) = [c] :: runsOf separates rest := by
  rw [runsOf.eq_def]
  cases rest with
  | nil => simp [here, runsOf]
  | cons next rest => simp [here, ends next rfl]

theorem runs_of_next (c next : α) (rest part : List α) (parts : List (List α)) (here : separates c = false)
    (goesOn : separates next = false) (later : runsOf separates (next :: rest) = part :: parts) :
    runsOf separates (c :: next :: rest) = (c :: part) :: parts := by
  rw [runsOf.eq_def]
  simp [here, goesOn, later]

theorem runs_of_gap (gap text : List α) (apart : ∀ c ∈ gap, separates c = true) :
    runsOf separates (gap ++ text) = runsOf separates text := by
  induction gap with
  | nil => rfl
  | cons c gap ih =>
      rw [List.cons_append, runs_of_apart c _ (apart c (List.mem_cons_self ..))]
      exact ih fun other member => apart other (List.mem_cons_of_mem _ member)

theorem runs_of_part (part rest : List α) (given : part ≠ []) (joined : ∀ c ∈ part, separates c = false)
    (ends : ∀ next ∈ rest.head?, separates next = true) :
    runsOf separates (part ++ rest) = part :: runsOf separates rest := by
  induction part with
  | nil => exact absurd rfl given
  | cons c part ih =>
      have here := joined c (List.mem_cons_self ..)
      cases part with
      | nil => exact runs_of_last c rest here ends
      | cons next part =>
          have later := ih (List.cons_ne_nil _ _) fun other member => joined other (List.mem_cons_of_mem _ member)
          exact runs_of_next c next (part ++ rest) _ _ here (joined next (by simp)) later

theorem has_runs_of (text : List α) (parts : List (List α)) (runs : HasRuns separates text parts) :
    runsOf separates text = parts := by
  induction runs with
  | none gap apart =>
      rw [← List.append_nil gap, runs_of_gap gap [] apart]
      rfl
  | run gap part rest parts apart given joined ends _ ih =>
      rw [runs_of_gap gap _ apart, runs_of_part part rest given joined ends, ih]

theorem runs_after (c : α) (text : List α) (parts : List (List α)) (apart : separates c = true)
    (runs : HasRuns separates text parts) : HasRuns separates (c :: text) parts := by
  cases runs with
  | none _ others => exact .none _ (List.forall_mem_cons.mpr ⟨apart, others⟩)
  | run gap part rest parts others given joined ends runs =>
      exact .run (c :: gap) part rest parts (List.forall_mem_cons.mpr ⟨apart, others⟩) given joined ends runs

theorem runs_extend (c next : α) (text : List α) (parts : List (List α)) (here : separates c = false)
    (goesOn : separates next = false) (runs : HasRuns separates (next :: text) parts) :
    ∃ part others, parts = part :: others ∧ HasRuns separates (c :: next :: text) ((c :: part) :: others) := by
  generalize whole : next :: text = letters at runs
  cases runs with
  | none _ apart =>
      rw [← whole, List.forall_mem_cons] at apart
      cases goesOn.symm.trans apart.1
  | run gap part rest parts apart given joined ends runs =>
      cases gap with
      | cons first gap =>
          cases whole
          cases goesOn.symm.trans (apart next (List.mem_cons_self ..))
      | nil =>
          rw [List.nil_append]
          exact ⟨part, parts, rfl, .run [] (c :: part) rest parts (List.forall_mem_nil _) (List.cons_ne_nil _ _)
            (List.forall_mem_cons.mpr ⟨here, joined⟩) ends runs⟩

theorem runs_of_has (text : List α) : HasRuns separates text (runsOf separates text) := by
  induction text with
  | nil => exact .none [] (List.forall_mem_nil _)
  | cons c rest ih =>
      by_cases apart : separates c = true
      · rw [runs_of_apart c rest apart]
        exact runs_after c rest _ apart ih
      have here : separates c = false := Bool.eq_false_iff.mpr apart
      by_cases ends : ∀ next ∈ rest.head?, separates next = true
      · rw [runs_of_last c rest here ends]
        exact .run [] [c] rest _ (List.forall_mem_nil _) (List.cons_ne_nil _ _) (List.forall_mem_singleton.mpr here) ends ih
      · cases rest with
        | nil => exact absurd (by simp) ends
        | cons next rest =>
            have goesOn : separates next = false := by simpa using ends
            obtain ⟨part, others, later, runs⟩ := runs_extend c next rest _ here goesOn ih
            rw [runs_of_next c next rest part others here goesOn later]
            exact runs

theorem has_runs_iff (text : List α) (parts : List (List α)) :
    HasRuns separates text parts ↔ runsOf separates text = parts := by
  constructor
  · exact has_runs_of text parts
  · rintro rfl
    exact runs_of_has text

end Runs

end ConstantSweep.Text

namespace ConstantSweep.Sweep

open ConstantSweep.Template
open ConstantSweep.Text

-- Why a list of values is refused: there are none, or one is no integer. Of several the first one is named.
inductive Refuses (parts : List (List Letter)) : Fault → Prop where
  | empty : parts = [] → Refuses parts .noSweepValues
  | bad (early : List (List Letter)) (part : List Letter) (late : List (List Letter)) : parts = early ++ part :: late →
      (∀ other ∈ early, ∃ value, SpellsInteger other value) → (∀ value, ¬ SpellsInteger part value) →
      Refuses parts (.notASweepValue ⟨part⟩)

def Separates (gap : List Letter) : Prop := ∀ letter ∈ gap, separatesValues letter = true

def Joined (part : List Letter) : Prop := ∀ letter ∈ part, separatesValues letter = false

theorem joined_bare (part : List Letter) (joined : Joined part) : ∀ letter ∈ part, surroundsNumber letter = false := by
  intro letter member
  have unblank : isBlank letter = false := (Bool.or_eq_false_iff.mp (joined letter member)).2
  rw [surroundsNumber]
  by_cases ascii : letter.code < 128
  · rw [if_pos ascii, Bool.eq_false_iff]
    intro blank
    cases unblank.symm.trans (ascii_blank_is_blank letter blank)
  · rw [if_neg ascii, unblank]

theorem read_value_iff (part : List Letter) (joined : Joined part) (value : Int) :
    readValue ⟨part⟩ = .ok value ↔ SpellsInteger part value := by
  rw [← read_integer_iff part value (joined_bare part joined), readValue]
  cases readInteger 10 ⟨part⟩ with
  | ok number => simp
  | error cause => simp

theorem read_value_error_iff (part : List Letter) (joined : Joined part) (fault : Fault) :
    readValue ⟨part⟩ = .error fault ↔ (∀ value, ¬ SpellsInteger part value) ∧ fault = .notASweepValue ⟨part⟩ := by
  simp only [← read_value_iff part joined]
  rw [readValue]
  cases readInteger 10 ⟨part⟩ with
  | ok number => simp
  | error cause => simp [eq_comm]

theorem runs_joined (text : List Letter) (parts : List (List Letter)) (runs : HasRuns separatesValues text parts) :
    ∀ part ∈ parts, Joined part := by
  induction runs with
  | none gap apart => exact List.forall_mem_nil _
  | run gap part rest parts apart given joined ends _ ih => exact List.forall_mem_cons.mpr ⟨joined, ih⟩

section Reading

variable (text : Text) (parts : List (List Letter)) (runs : HasRuns separatesValues text.toList parts)

include runs

theorem read_values_parts :
    readValues text = if parts = [] then .error .noSweepValues else parts.mapM fun part => readValue ⟨part⟩ := by
  rw [readValues, (has_runs_iff text.toList parts).mp runs]
  cases parts with
  | nil => rfl
  | cons part parts => rfl

theorem read_values_iff (values : List Int) :
    readValues text = .ok values ↔ parts ≠ [] ∧ List.Forall₂ SpellsInteger parts values := by
  have joined := runs_joined text.toList parts runs
  rw [read_values_parts text parts runs]
  by_cases empty : parts = []
  · simp [empty]
  · rw [if_neg empty, map_m_iff, related_congr _ SpellsInteger parts values fun part member value =>
      read_value_iff part (joined part member) value]
    simp [empty]

theorem read_values_error_iff (fault : Fault) : readValues text = .error fault ↔ Refuses parts fault := by
  have joined := runs_joined text.toList parts runs
  rw [read_values_parts text parts runs]
  by_cases empty : parts = []
  · rw [if_pos empty]
    constructor
    · rintro ⟨⟩
      exact .empty empty
    · intro refuses
      cases refuses with
      | empty _ => rfl
      | bad early part late whole => simp [empty] at whole
  · rw [if_neg empty, map_m_error_iff]
    constructor
    · rintro ⟨early, part, late, rfl, good, refused⟩
      obtain ⟨none, rfl⟩ := (read_value_error_iff part (joined part (by simp)) fault).mp refused
      refine .bad early part late rfl ?_ none
      intro other member
      obtain ⟨value, read⟩ := good other member
      exact ⟨value, (read_value_iff other (joined other (by simp [member])) value).mp read⟩
    · intro refuses
      cases refuses with
      | empty none => exact absurd none empty
      | bad early part late whole good none =>
          subst whole
          refine ⟨early, part, late, rfl, ?_, (read_value_error_iff part (joined part (by simp)) _).mpr ⟨none, rfl⟩⟩
          intro other member
          obtain ⟨value, spells⟩ := good other member
          exact ⟨value, (read_value_iff other (joined other (by simp [member])) value).mpr spells⟩

end Reading

theorem numeral_joined (value : Int) : Joined (numeral value) := by
  have apart : ∀ range ∈ blankRanges, range.2 < 45 ∨ 57 < range.1 := by decide
  intro letter member
  obtain ⟨c, rfl, numeric⟩ := (number_letters value).2 letter member
  have bounds : 45 ≤ c.toNat ∧ c.toNat ≤ 57 := by
    rcases numeric with rfl | digit
    · decide
    · exact (Char.isDigit_iff_toNat.mp digit).imp_left fun low => Nat.le_trans (by decide) low
  rw [separatesValues, Bool.or_eq_false_iff, isBlank, Bool.eq_false_iff, Bool.eq_false_iff, ne_eq, ne_eq, beq_iff_eq,
    within_iff, Letter.code]
  constructor
  · rintro comma
    cases comma
    revert bounds
    decide
  · rintro ⟨range, listed, low, high⟩
    have away := apart range listed
    omega

-- Integers one after the other, with what stands after each of them.
def spread (values : List Int) (gaps : List (List Letter)) : List Letter :=
  (List.zipWith (fun value gap => numeral value ++ gap) values gaps).flatten

theorem runs_after_gap (gap text : List Letter) (parts : List (List Letter)) (apart : Separates gap)
    (runs : HasRuns separatesValues text parts) : HasRuns separatesValues (gap ++ text) parts := by
  induction gap with
  | nil => exact runs
  | cons letter gap ih =>
      obtain ⟨here, others⟩ := List.forall_mem_cons.mp apart
      exact runs_after letter _ parts here (ih others)

theorem spread_runs (values : List Int) (gaps : List (List Letter)) (after : List Letter)
    (counted : gaps.length + 1 = values.length) (between : ∀ gap ∈ gaps, gap ≠ [] ∧ Separates gap)
    (ends : Separates after) : HasRuns separatesValues (spread values (gaps ++ [after])) (values.map numeral) := by
  induction values generalizing gaps with
  | nil => cases counted
  | cons value values ih =>
      have given : numeral value ≠ [] := (number_letters value).1
      cases gaps with
      | nil =>
          obtain rfl : values = [] := List.eq_nil_of_length_eq_zero (by simpa using counted.symm)
          have runs := HasRuns.run [] (numeral value) after [] (List.forall_mem_nil _) given (numeral_joined value)
            (fun next first => ends next (List.mem_of_mem_head? first)) (.none after ends)
          simpa [spread] using runs
      | cons gap gaps =>
          obtain ⟨⟨some, apart⟩, others⟩ := List.forall_mem_cons.mp between
          have later := runs_after_gap gap _ _ apart (ih gaps (by simpa using counted) others)
          have begins : ∀ next ∈ (gap ++ spread values (gaps ++ [after])).head?, separatesValues next = true := by
            rw [List.head?_append_of_ne_nil _ some]
            exact fun next first => apart next (List.mem_of_mem_head? first)
          have runs := HasRuns.run [] (numeral value) _ _ (List.forall_mem_nil _) given (numeral_joined value) begins later
          simpa [spread] using runs

-- A list of values is read exactly if all its runs are integers, which are its values; and any integers that can be
-- written are read back, whatever commas and blanks stand between and around them.
theorem values_read_exactly :
    (∀ text : Text, ∃ parts, (∀ others, HasRuns separatesValues text.toList others ↔ others = parts) ∧
      (∀ values, readValues text = .ok values ↔ parts ≠ [] ∧ List.Forall₂ SpellsInteger parts values) ∧
      (∀ fault, readValues text = .error fault ↔ Refuses parts fault) ∧
      ∀ fault, readValues text = .error fault → fault.kind = .value ∧
        ∀ part, fault = .notASweepValue part → fault.message = "Sweep value is not an integer: " ++ quoted part) ∧
    ∀ (values : List Int) (before after : List Letter) (gaps : List (List Letter)),
      gaps.length + 1 = values.length → (∀ value ∈ values, Text.isWritable value = true) → Separates before →
      (∀ gap ∈ gaps, gap ≠ [] ∧ Separates gap) → Separates after →
      readValues ⟨before ++ spread values (gaps ++ [after])⟩ = .ok values := by
  constructor
  · intro text
    have runs : HasRuns separatesValues text.toList (runsOf separatesValues text.toList) := runs_of_has text.toList
    refine ⟨_, ?_, read_values_iff text _ runs, read_values_error_iff text _ runs, ?_⟩
    · intro others
      rw [has_runs_iff, eq_comm]
    · intro fault refused
      refine ⟨?_, ?_⟩
      · cases (read_values_error_iff text _ runs fault).mp refused <;> rfl
      · rintro part rfl
        rfl
  · intro values before after gaps counted writable begins between ends
    have runs := runs_after_gap before _ _ begins (spread_runs values gaps after counted between ends)
    refine (read_values_iff _ _ runs values).mpr ⟨?_, ?_⟩
    · rintro none
      rw [List.map_eq_nil_iff] at none
      simp [none] at counted
    · rw [List.forall₂_map_left_iff, List.forall₂_same]
      exact fun value member => numeral_spells value (writable value member)

theorem values_read_exactly_once :
    (∀ value ∈ ([2, -4, 4] : List Int), Text.isWritable value = true) ∧
      (∀ gap ∈ [Text.toList ", ", Text.toList "\u3000,,"], gap ≠ [] ∧ Separates gap) ∧
      readValues "\t2, -4\u3000,,4\n" = .ok [2, -4, 4] := by
  have writable : ∀ value ∈ ([2, -4, 4] : List Int), Text.isWritable value = true := by decide +kernel
  have between : ∀ gap ∈ [Text.toList ", ", Text.toList "\u3000,,"], gap ≠ [] ∧ Separates gap := by
    unfold Separates
    decide +kernel
  have around : Separates (Text.toList "\t") ∧ Separates (Text.toList "\n") := by
    unfold Separates
    decide +kernel
  have same : Text.ofString "\t2, -4\u3000,,4\n" = ⟨Text.toList "\t" ++
      spread [2, -4, 4] ([Text.toList ", ", Text.toList "\u3000,,"] ++ [Text.toList "\n"])⟩ := by
    decide +kernel
  refine ⟨writable, between, ?_⟩
  rw [same]
  exact values_read_exactly.2 [2, -4, 4] (Text.toList "\t") (Text.toList "\n") _ rfl writable around.1 between around.2

end ConstantSweep.Sweep

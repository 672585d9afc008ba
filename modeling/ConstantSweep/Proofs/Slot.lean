import ConstantSweep.Proofs.Lines
import ConstantSweep.Sweep.Patch

set_option autoImplicit false

namespace ConstantSweep.Sweep

open ConstantSweep.Text

-- What a patch of one line leaves alone: the lines above and below, and the ending of the line itself.
structure Slot where
  above : List (List Letter)
  ending : List Letter
  below : List (List Letter)

namespace Slot

def lines (slot : Slot) (body : List Letter) : List (List Letter) :=
  slot.above ++ (body ++ slot.ending) :: slot.below

def fill (slot : Slot) (body : List Letter) : List Letter := (slot.lines body).flatten

-- The line in the slot is the only one of the text whose body passes the test.
structure Holds (slot : Slot) (test : List Letter → Bool) (body text : List Letter) : Prop where
  cut : splitLines text = slot.lines body
  parted : Line.ofLetters (body ++ slot.ending) = ⟨body, slot.ending⟩
  hit : test body = true
  others : ∀ other ∈ slot.above ++ slot.below, test (Line.ofLetters other).body = false

end Slot

def hits (p : List Letter → Bool) (start : Nat) (lines : List (List Letter)) : List Nat :=
  (lines.zipIdx start).filterMap fun (line, index) => if p line then some index else none

theorem matching_lines_hits (test : List Letter → Bool) (text : List Letter) :
    matchingLines test text = hits (fun line => test (Line.ofLetters line).body) 0 (splitLines text) := rfl

theorem hits_cons (p : List Letter → Bool) (start : Nat) (first : List Letter) (rest : List (List Letter)) :
    hits p start (first :: rest) = if p first then start :: hits p (start + 1) rest else hits p (start + 1) rest := by
  cases hit : p first <;> simp only [hits, List.zipIdx_cons, List.filterMap_cons, hit, Bool.false_eq_true, if_false, if_true]

theorem hits_none (p : List Letter → Bool) (start : Nat) (lines : List (List Letter)) :
    hits p start lines = [] ↔ ∀ line ∈ lines, p line = false := by
  induction lines generalizing start with
  | nil => simp [hits]
  | cons first rest ih =>
      rw [hits_cons, List.forall_mem_cons, ← ih (start + 1)]
      cases p first <;> simp

theorem hits_one (p : List Letter → Bool) (start index : Nat) (lines : List (List Letter)) :
    hits p start lines = [index] ↔ ∃ above line below, lines = above ++ line :: below ∧ p line = true ∧
      (∀ other ∈ above ++ below, p other = false) ∧ index = start + above.length := by
  induction lines generalizing start with
  | nil => simp [hits]
  | cons first rest ih =>
      rw [hits_cons]
      cases hit : p first with
      | true =>
          rw [if_pos rfl, List.cons.injEq, hits_none]
          constructor
          · rintro ⟨place, others⟩
            exact ⟨[], first, rest, rfl, hit, others, place.symm⟩
          · rintro ⟨above, line, below, same, _, others, place⟩
            cases above with
            | nil =>
                cases same
                exact ⟨place.symm, others⟩
            | cons head above =>
                cases same
                rw [others first (by simp)] at hit
                cases hit
      | false =>
          rw [if_neg Bool.false_ne_true, ih (start + 1)]
          constructor
          · rintro ⟨above, line, below, same, hits, others, place⟩
            refine ⟨first :: above, line, below, congrArg (first :: ·) same, hits, ?_, ?_⟩
            · exact List.forall_mem_cons.mpr ⟨hit, others⟩
            · rw [place, List.length_cons]
              omega
          · rintro ⟨above, line, below, same, hits, others, place⟩
            cases above with
            | nil =>
                cases same
                rw [hits] at hit
                cases hit
            | cons head above =>
                cases same
                refine ⟨above, line, below, rfl, hits, (List.forall_mem_cons.mp others).2, ?_⟩
                rw [place, List.length_cons]
                omega

namespace Slot

variable {test : List Letter → Bool} {slot : Slot} {body text : List Letter}

theorem holds_text (holds : slot.Holds test body text) : text = slot.fill body := by
  rw [fill, ← holds.cut, flatten_split_lines]

theorem holds_matching (holds : slot.Holds test body text) : matchingLines test text = [slot.above.length] :=
  (hits_one _ 0 _ _).mpr ⟨slot.above, body ++ slot.ending, slot.below, holds.cut,
    (congrArg (fun line => test line.body) holds.parted).trans holds.hit, holds.others, (Nat.zero_add _).symm⟩

theorem holds_unique (other : Slot) (body₁ : List Letter) (holds : slot.Holds test body text)
    (holdsToo : other.Holds test body₁ text) : slot = other ∧ body = body₁ := by
  have found := (holds_matching holds).symm.trans (holds_matching holdsToo)
  have place : slot.above.length = other.above.length := (List.cons.inj found).1
  have split := holds.cut.symm.trans holdsToo.cut
  obtain ⟨above, rest⟩ := List.append_inj split place
  obtain ⟨line, below⟩ := List.cons.inj rest
  have parts := (congrArg Line.ofLetters line).symm
  rw [holds.parted, holdsToo.parted] at parts
  cases slot
  cases other
  cases parts
  cases above
  cases below
  exact ⟨rfl, rfl⟩

theorem fill_cut (fresh : List Letter) (holds : slot.Holds test body text) (isBody : IsBody fresh) :
    splitLines (slot.fill fresh) = slot.lines fresh ∧ Line.ofLetters (fresh ++ slot.ending) = ⟨fresh, slot.ending⟩ := by
  have lined := split_lines_lined text
  rw [holds.cut] at lined
  have parted := lined_parted _ lined (body ++ slot.ending) (by simp [lines])
  rw [holds.parted] at parted
  have linedFresh : Lined (slot.lines fresh) :=
    lined_exchange slot.above slot.below (body ++ slot.ending) (fresh ++ slot.ending) lined
      (exchange_terminated _ fresh _ parted isBody) (exchange_unterminated _ fresh _ parted isBody)
  exact ⟨split_lines_flatten _ linedFresh, parted_unique _ _ (parted_exchange _ fresh _ parted isBody)⟩

theorem fill_holds (fresh : List Letter) (holds : slot.Holds test body text) (isBody : IsBody fresh)
    (hit : test fresh = true) : slot.Holds test fresh (slot.fill fresh) := by
  obtain ⟨cut, parted⟩ := fill_cut fresh holds isBody
  exact ⟨cut, parted, hit, holds.others⟩

end Slot

theorem replace_line_slot (slot : Slot) (test : List Letter → Bool) (body text replacement : List Letter)
    (holds : slot.Holds test body text) :
    replaceLine text replacement slot.above.length = ⟨slot.fill replacement, body, slot.above.length⟩ := by
  have line : (slot.lines body)[slot.above.length]?.getD [] = body ++ slot.ending := by simp [Slot.lines]
  rw [replaceLine, holds.cut]
  simp only [line, holds.parted]
  simp [Slot.fill, Slot.lines]

theorem matching_lines_slot (test : List Letter → Bool) (text : List Letter) (index : Nat) :
    matchingLines test text = [index] ↔ ∃ slot body, Slot.Holds slot test body text ∧ slot.above.length = index := by
  constructor
  · intro found
    rw [matching_lines_hits, hits_one] at found
    obtain ⟨above, line, below, cut, hit, others, place⟩ := found
    have whole : (Line.ofLetters line).body ++ (Line.ofLetters line).ending = line := Line.to_letters_of_letters line
    refine ⟨⟨above, (Line.ofLetters line).ending, below⟩, (Line.ofLetters line).body, ⟨?_, ?_, hit, others⟩, ?_⟩
    · rw [cut, Slot.lines, whole]
    · rw [whole]
    · rw [place, Nat.zero_add]
  · rintro ⟨slot, body, holds, rfl⟩
    exact Slot.holds_matching holds

theorem replace_matching_iff (test : List Letter → Bool) (replacement text : List Letter) (replaced : Replaced) :
    replaceMatching test replacement text = .ok replaced ↔
      ∃ slot body, Slot.Holds slot test body text ∧ replaced = ⟨slot.fill replacement, body, slot.above.length⟩ := by
  constructor
  · intro made
    rw [replaceMatching] at made
    split at made
    · rename_i index found
      obtain ⟨slot, body, holds, rfl⟩ := (matching_lines_slot test text index).mp found
      rw [replace_line_slot slot test body text replacement holds] at made
      exact ⟨slot, body, holds, (Except.ok.inj made).symm⟩
    · cases made
  · rintro ⟨slot, body, holds, same⟩
    rw [replaceMatching, Slot.holds_matching holds, same]
    exact congrArg Except.ok (replace_line_slot slot test body text replacement holds)

end ConstantSweep.Sweep

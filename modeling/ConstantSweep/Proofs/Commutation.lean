import ConstantSweep.Proofs.Attempt
import ConstantSweep.Proofs.Lens

set_option autoImplicit false

namespace ConstantSweep.Sweep

open ConstantSweep.Text
open ConstantSweep.Text.Utf8

namespace Slot

-- The slot after another line has been exchanged, the one of this index.
def beside (slot : Slot) (index : Nat) (line : List Letter) : Slot :=
  if index < slot.above.length then { slot with above := slot.above.set index line }
  else { slot with below := slot.below.set (index - slot.above.length - 1) line }

variable {test testToo : List Letter → Bool} {slot other : Slot} {body bodyToo text : List Letter}

theorem beside_ending (slot : Slot) (index : Nat) (line : List Letter) :
    (slot.beside index line).ending = slot.ending := by
  unfold beside
  split <;> rfl

theorem beside_lines (index : Nat) (line body : List Letter) (apart : slot.above.length ≠ index) :
    (slot.beside index line).lines body = (slot.lines body).set index line := by
  by_cases before : index < slot.above.length
  · rw [beside, if_pos before, lines, lines, List.set_append_left index line before]
  · have after : index - slot.above.length = index - slot.above.length - 1 + 1 := by omega
    rw [beside, if_neg before, lines, lines, List.set_append_right index line (by omega), after, List.set_cons_succ]
    rfl

theorem beside_others (index : Nat) (line letters : List Letter)
    (member : letters ∈ (slot.beside index line).above ++ (slot.beside index line).below) :
    letters ∈ slot.above ++ slot.below ∨ letters = line := by
  rw [List.mem_append] at member ⊢
  unfold beside at member
  split at member
  · rcases member with early | late
    · exact (List.mem_or_eq_of_mem_set early).imp_left .inl
    · exact .inl (.inr late)
  · rcases member with early | late
    · exact .inl (.inl early)
    · exact (List.mem_or_eq_of_mem_set late).imp_left .inr

theorem lines_set (slot : Slot) (body fresh : List Letter) :
    slot.lines fresh = (slot.lines body).set slot.above.length (fresh ++ slot.ending) := by
  simp [lines]

theorem same_lines (holds : slot.Holds test body text) (holdsToo : other.Holds testToo bodyToo text) :
    slot.lines body = other.lines bodyToo := holds.cut.symm.trans holdsToo.cut

theorem beside_holds (fresh : List Letter) (holds : slot.Holds test body text)
    (holdsToo : other.Holds testToo bodyToo text) (apart : slot.above.length ≠ other.above.length)
    (isBody : IsBody fresh) (missed : test fresh = false) :
    (slot.beside other.above.length (fresh ++ other.ending)).Holds test body (other.fill fresh) := by
  obtain ⟨cut, parted⟩ := fill_cut fresh holdsToo isBody
  constructor
  · rw [cut, lines_set other bodyToo fresh, ← same_lines holds holdsToo, beside_lines _ _ _ apart]
  · rw [beside_ending]
    exact holds.parted
  · exact holds.hit
  · intro letters member
    rcases beside_others _ _ letters member with old | rfl
    · exact holds.others letters old
    · rw [parted]
      exact missed

theorem fill_either_way (first second : List Letter) (holds : slot.Holds test body text)
    (holdsToo : other.Holds testToo bodyToo text) (apart : slot.above.length ≠ other.above.length) :
    (other.beside slot.above.length (first ++ slot.ending)).fill second =
      (slot.beside other.above.length (second ++ other.ending)).fill first := by
  rw [fill, fill, beside_lines _ _ _ apart, beside_lines _ _ _ apart.symm, lines_set other bodyToo second,
    lines_set slot body first, same_lines holds holdsToo, List.set_comm _ _ apart]

end Slot

-- A change of one line of a file: the pattern that matches it, and what is put in its place.
structure Edit where
  pattern : Text
  fresh : Text

def Edit.request (edit : Edit) (path : Path) : PatchRequest := ⟨path, edit.pattern, edit.fresh⟩

def foundLines? (pattern text : Text) : Option (List Nat) :=
  (lineTest pattern).toOption.map fun test => matchingLines test text.toList

def hitsBody? (pattern body : Text) : Option Bool := (lineTest pattern).toOption.map fun test => test body.toList

-- Each pattern matches one line of the text, not the same one, and does not match what is put in the place of the
-- other.
structure Independent (text : Text) (first second : Edit) (line lineToo : Nat) : Prop where
  found : foundLines? first.pattern text = some [line]
  foundToo : foundLines? second.pattern text = some [lineToo]
  apart : line ≠ lineToo
  isBody : IsBody first.fresh.toList
  isBodyToo : IsBody second.fresh.toList
  missed : hitsBody? second.pattern first.fresh = some false
  missedToo : hitsBody? first.pattern second.fresh = some false

structure InTurn (disk : Disk) (first second : PatchRequest) (made next : Patched) : Prop where
  leads : patch disk first = .ok made
  follows : patch made.disk second = .ok next

-- Both orders are possible and leave the same disk, and each patch tells the same line in both.
def Interchange (disk : Disk) (first second : PatchRequest) : Prop :=
  ∃ made next madeToo nextToo, InTurn disk first second made next ∧ InTurn disk second first madeToo nextToo ∧
    next.disk = nextToo.disk ∧ made.previous = nextToo.previous ∧ next.previous = madeToo.previous

theorem found_slot (pattern text : Text) (line : Nat) (found : foundLines? pattern text = some [line]) :
    ∃ test slot body, lineTest pattern = .ok test ∧ Slot.Holds slot test body text.toList ∧
      slot.above.length = line := by
  obtain ⟨test, known, only⟩ := Option.map_eq_some_iff.mp found
  obtain ⟨slot, body, holds, place⟩ := (matching_lines_slot test text.toList line).mp only
  exact ⟨test, slot, body, to_option_ok known, holds, place⟩

theorem missed_test (pattern body : Text) (test : List Letter → Bool) (known : lineTest pattern = .ok test)
    (missed : hitsBody? pattern body = some false) : test body.toList = false := by
  rw [hitsBody?, known] at missed
  exact Option.some.inj missed

section Turns

variable {disk : Disk} {path : Path} {place : List Text} {executable : Bool} {text : List Letter}
  {test testToo : List Letter → Bool} {slot other : Slot} {body bodyToo : List Letter} {first second : Edit}

theorem made_in_turn (opens : Opens disk path place executable text) (holds : slot.Holds test body text)
    (holdsToo : other.Holds testToo bodyToo text) (apart : slot.above.length ≠ other.above.length)
    (known : lineTest first.pattern = .ok test) (knownToo : lineTest second.pattern = .ok testToo)
    (plain : Plain first.fresh.toList) (plainToo : Plain second.fresh.toList) (isBody : IsBody first.fresh.toList)
    (missed : testToo first.fresh.toList = false) :
    ∃ made next, InTurn disk (first.request path) (second.request path) made next ∧ made.previous = ⟨body⟩ ∧
      next.previous = ⟨bodyToo⟩ ∧
      next.disk = Focus.put ⟨place, executable, other.beside slot.above.length (first.fresh.toList ++ slot.ending)⟩ disk
        second.fresh.toList := by
  have finds := Focus.opens_finds opens holds
  obtain ⟨made, madeFirst, left, told⟩ := patch_of_put finds known first.fresh plain
  have opensNext := Focus.put_opens finds first.fresh.toList plain
  rw [← left] at opensNext
  -- The line of the second pattern is where it was, beside the line that is now there for the first.
  have findsNext := Focus.opens_finds opensNext
    (Slot.beside_holds first.fresh.toList holdsToo holds apart.symm isBody missed)
  obtain ⟨next, madeNext, lastly, toldNext⟩ := patch_of_put findsNext knownToo second.fresh plainToo
  refine ⟨made, next, ⟨madeFirst, madeNext⟩, told, toldNext, ?_⟩
  rw [lastly, left]
  exact Focus.put_put _ _ _

end Turns

theorem independent_patches_interchange (disk : Disk) (path : Path) (text : Text) (first second : Edit)
    (line lineToo : Nat) (read : readText disk path = .ok text)
    (independent : Independent text first second line lineToo) :
    Interchange disk (first.request path) (second.request path) ↔
      disk.canWrite path = true ∧ Plain first.fresh.toList ∧ Plain second.fresh.toList := by
  constructor
  -- Each of the two patches comes first in one of the orders, and so it is made on this disk.
  · rintro ⟨made, _, madeToo, _, inTurn, inTurnToo, _⟩
    obtain ⟨_, _, _, _, finds, plain⟩ := patch_finds disk _ _ made inTurn.leads
    obtain ⟨_, _, _, _, _, plainToo⟩ := patch_finds disk _ _ madeToo inTurnToo.leads
    exact ⟨finds.writable, plain, plainToo⟩
  · rintro ⟨writable, plain, plainToo⟩
    obtain ⟨place, executable, opens⟩ := read_opens disk path text read writable
    obtain ⟨test, slot, body, known, holds, rfl⟩ := found_slot _ text line independent.found
    obtain ⟨testToo, other, bodyToo, knownToo, holdsToo, rfl⟩ := found_slot _ text lineToo independent.foundToo
    have missed := missed_test _ _ testToo knownToo independent.missed
    have missedToo := missed_test _ _ test known independent.missedToo
    obtain ⟨made, next, inTurn, told, toldNext, lastly⟩ := made_in_turn opens holds holdsToo independent.apart known
      knownToo plain plainToo independent.isBody missed
    obtain ⟨madeToo, nextToo, inTurnToo, toldToo, toldNextToo, lastlyToo⟩ := made_in_turn opens holdsToo holds
      independent.apart.symm knownToo known plainToo plain independent.isBodyToo missedToo
    refine ⟨made, next, madeToo, nextToo, inTurn, inTurnToo, ?_, told.trans toldNextToo.symm,
      toldNext.trans toldToo.symm⟩
    rw [lastly, lastlyToo, Focus.put, Focus.put, Slot.bytes_fill, Slot.bytes_fill,
      Slot.fill_either_way first.fresh.toList second.fresh.toList holds holdsToo independent.apart]

theorem stopped_no_interchange (disk : Disk) (first second : PatchRequest)
    (stopped : (patch disk second).toOption.map Patched.previous = none) : ¬ Interchange disk first second := by
  rintro ⟨_, _, _, _, _, inTurnToo, _⟩
  rw [inTurnToo.leads] at stopped
  cases stopped

namespace Sample

def ledger : Path := Path.ofText "c.txt"

def ledgerText : Text := "A\r\nkeep\u000c\nB"

def threeLines (unwritable : List Path) : Disk :=
  ⟨⟨[(["c.txt"], .file [65, 13, 10, 107, 101, 101, 112, 12, 10, 66] false)]⟩, [], unwritable⟩

def early : Edit := ⟨"A", "x=1"⟩

def late : Edit := ⟨"B", "y=2"⟩

def halved : Edit := ⟨"B", ⟨[.half ⟨0, by decide⟩]⟩⟩

theorem ledger_read (unwritable : List Path) : readText (threeLines unwritable) ledger = .ok ledgerText := by
  have known : (readText (threeLines []) ledger).toOption = some ledgerText := by decide +kernel
  exact to_option_ok known

theorem early_late_independent : Independent ledgerText early late 0 2 := by
  constructor
  · decide +kernel
  · decide +kernel
  · decide
  · exact ⟨by decide, by decide, by decide⟩
  · exact ⟨by decide, by decide, by decide⟩
  · decide +kernel
  · decide +kernel

end Sample

theorem independent_patches_interchange_once :
    readText (Sample.threeLines []) Sample.ledger = .ok Sample.ledgerText ∧
      Independent Sample.ledgerText Sample.early Sample.late 0 2 ∧
      Interchange (Sample.threeLines []) (Sample.early.request Sample.ledger) (Sample.late.request Sample.ledger) := by
  have conditions := independent_patches_interchange (Sample.threeLines []) Sample.ledger Sample.ledgerText
    Sample.early Sample.late 0 2 (Sample.ledger_read []) Sample.early_late_independent
  refine ⟨Sample.ledger_read [], Sample.early_late_independent, conditions.mpr ⟨by decide, ?_, ?_⟩⟩
  · exact plain_of_chars "x=1".toList
  · exact plain_of_chars "y=2".toList

-- A file that may not be written and a line that cannot be are not excluded by what the patterns match.
theorem unwritten_patches_do_not_interchange :
    (readText (Sample.threeLines [Sample.ledger]) Sample.ledger = .ok Sample.ledgerText ∧
      Independent Sample.ledgerText Sample.early Sample.late 0 2 ∧
      ¬ Interchange (Sample.threeLines [Sample.ledger]) (Sample.early.request Sample.ledger)
        (Sample.late.request Sample.ledger)) ∧
    (readText (Sample.threeLines []) Sample.ledger = .ok Sample.ledgerText ∧
      Independent Sample.ledgerText Sample.early Sample.halved 0 2 ∧
      ¬ Interchange (Sample.threeLines []) (Sample.early.request Sample.ledger)
        (Sample.halved.request Sample.ledger)) := by
  have independent := Sample.early_late_independent
  refine ⟨⟨Sample.ledger_read _, independent, ?_⟩, Sample.ledger_read _, ⟨independent.found, independent.foundToo,
    independent.apart, independent.isBody, ?_, independent.missed, ?_⟩, ?_⟩
  · apply stopped_no_interchange
    decide +kernel
  · exact ⟨by decide, by decide, by decide⟩
  · decide +kernel
  · apply stopped_no_interchange
    decide +kernel

end ConstantSweep.Sweep

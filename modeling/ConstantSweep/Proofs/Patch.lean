import ConstantSweep.Proofs.FileTree
import ConstantSweep.Proofs.Slot
import ConstantSweep.Proofs.Utf8
import ConstantSweep.Sweep.Bench

set_option autoImplicit false

namespace ConstantSweep.Sweep

open ConstantSweep.Text
open ConstantSweep.Text.Utf8

namespace Slot

def bytes (slot : Slot) (body : List Letter) : List UInt8 :=
  letterBytes slot.above.flatten ++ (letterBytes body ++ letterBytes slot.ending) ++ letterBytes slot.below.flatten

theorem bytes_fill (slot : Slot) (body : List Letter) : slot.bytes body = letterBytes (slot.fill body) := by
  rw [bytes, fill, lines, List.flatten_append, List.flatten_cons, letter_bytes_append, letter_bytes_append,
    letter_bytes_append, List.append_assoc, List.append_assoc]

theorem plain_fill (slot : Slot) (body : List Letter) :
    Plain (slot.fill body) ↔ Plain slot.above.flatten ∧ Plain body ∧ Plain slot.ending ∧ Plain slot.below.flatten := by
  rw [fill, lines, List.flatten_append, List.flatten_cons, plain_append, plain_append, plain_append, and_assoc]

-- The bytes are those of a text, and the line in the slot is the only one whose body passes the test.
structure Shows (slot : Slot) (test : List Letter → Bool) (body : List Letter) (bytes : List UInt8) : Prop where
  plain : Plain (slot.fill body)
  holds : slot.Holds test body (slot.fill body)
  bytes : bytes = slot.bytes body

theorem shows_unique (slot other : Slot) (test : List Letter → Bool) (body otherBody : List Letter) (bytes : List UInt8)
    (shown : slot.Shows test body bytes) (shownToo : other.Shows test otherBody bytes) :
    slot = other ∧ body = otherBody := by
  have same : slot.bytes body = other.bytes otherBody := shown.bytes.symm.trans shownToo.bytes
  rw [bytes_fill, bytes_fill] at same
  have text := letter_bytes_injective _ _ shown.plain shownToo.plain same
  have holds := shown.holds
  rw [text] at holds
  exact holds_unique other otherBody holds shownToo.holds

theorem shows_filled (slot : Slot) (test : List Letter → Bool) (body fresh : List Letter) (bytes : List UInt8)
    (shown : slot.Shows test body bytes) (plain : Plain fresh) (isBody : IsBody fresh) (hit : test fresh = true) :
    slot.Shows test fresh (slot.bytes fresh) := by
  obtain ⟨above, _, ending, below⟩ := (plain_fill slot body).mp shown.plain
  exact ⟨(plain_fill slot fresh).mpr ⟨above, plain, ending, below⟩, fill_holds fresh shown.holds isBody hit, rfl⟩

end Slot

-- The new bytes are the old ones with another body in the one line that matches.
def Rewrites (test : List Letter → Bool) (previous fresh : List Letter) (old new : List UInt8) : Prop :=
  ∃ slot : Slot, slot.Shows test previous old ∧ Plain fresh ∧ new = slot.bytes fresh

theorem rewrites_over (test : List Letter → Bool) (previous fresh other next : List Letter)
    (old middle new : List UInt8) (first : Rewrites test previous fresh old middle)
    (second : Rewrites test other next middle new) (isBody : IsBody fresh) (hit : test fresh = true) :
    Rewrites test previous next old new := by
  obtain ⟨slot, shown, plain, rfl⟩ := first
  obtain ⟨place, shownToo, plainNext, written⟩ := second
  obtain ⟨rfl, rfl⟩ := Slot.shows_unique place slot test other fresh _ shownToo
    (Slot.shows_filled slot test previous fresh old shown plain isBody hit)
  exact ⟨place, shown, plainNext, written⟩

theorem rewrites_back (test : List Letter → Bool) (previous fresh : List Letter) (old new : List UInt8)
    (made : Rewrites test previous fresh old new) (isBody : IsBody fresh) (hit : test fresh = true) :
    Rewrites test fresh previous new old := by
  obtain ⟨slot, shown, plain, rfl⟩ := made
  have whole := ((Slot.plain_fill slot previous).mp shown.plain).2.1
  exact ⟨slot, Slot.shows_filled slot test previous fresh old shown plain isBody hit, whole, shown.bytes⟩

theorem read_text_ok_iff (disk : Disk) (path : Path) (text : Text) :
    readText disk path = .ok text ↔ disk.canRead path = true ∧ Plain text.toList ∧
      disk.tree.read path = .ok (letterBytes text.toList) := by
  rw [readText]
  cases read : disk.read path with
  | error fault =>
      constructor
      · intro made
        cases made
      rintro ⟨readable, _, stored⟩
      have found := (Disk.read_ok_iff disk path _).mpr ⟨readable, stored⟩
      rw [read] at found
      cases found
  | ok bytes =>
      obtain ⟨readable, stored⟩ := (Disk.read_ok_iff disk path bytes).mp read
      rw [stored]
      dsimp only
      constructor
      · intro made
        cases decoded : decode bytes with
        | error fault => simp [decoded] at made
        | ok chars =>
            rw [decoded] at made
            cases made
            refine ⟨readable, plain_of_chars chars, congrArg Except.ok ?_⟩
            rw [← encode_decode bytes chars decoded, letterBytes, Text.ofChars, chars_of_chars]
      · rintro ⟨_, plain, same⟩
        rw [Except.ok.inj same, letterBytes, decode_encode]
        dsimp only
        rw [Text.ofChars, chars_of_plain text.toList plain]

structure Makes (disk : Disk) (request : PatchRequest) (compiled : Except Regex.Fault (List Letter → Bool))
    (test : List Letter → Bool) (text : Text) (bytes : List UInt8) (patched : Patched) : Prop where
  read : readText disk request.path = .ok text
  compiled : compiled = .ok test
  found : replaceMatching test request.replacement.toList text.toList = .ok patched.replaced
  encoded : encode? ⟨patched.replaced.text⟩ = .ok bytes
  written : disk.write request.path bytes = .ok patched.disk

theorem patch_with_iff (disk : Disk) (request : PatchRequest) (compiled : Except Regex.Fault (List Letter → Bool))
    (patched : Patched) : patchWith disk request compiled = .ok patched ↔
      ∃ test text bytes, Makes disk request compiled test text bytes patched := by
  constructor
  · intro made
    unfold patchWith at made
    split at made
    · cases made
    rename_i text read
    split at made
    · cases made
    rename_i test
    split at made
    · cases made
    rename_i replaced found
    split at made
    · cases made
    rename_i bytes encoded
    split at made
    · cases made
    rename_i after written
    cases made
    exact ⟨test, text, bytes, read, rfl, found, encoded, written⟩
  · rintro ⟨test, text, bytes, made⟩
    rw [patchWith, made.read, made.compiled]
    dsimp only
    rw [made.found]
    dsimp only
    rw [made.encoded]
    dsimp only
    rw [made.written]

theorem patch_with_ok (disk : Disk) (request : PatchRequest) (compiled : Except Regex.Fault (List Letter → Bool))
    (patched : Patched) (made : patchWith disk request compiled = .ok patched) :
    ∃ test old new, compiled = .ok test ∧ disk.canRead request.path = true ∧ disk.canWrite request.path = true ∧
      disk.tree.read request.path = .ok old ∧ patched.disk.tree.read request.path = .ok new ∧
      Rewrites test patched.previous.toList request.replacement.toList old new := by
  obtain ⟨test, text, bytes, read, compiled, found, encoded, written⟩ :=
    (patch_with_iff disk request compiled patched).mp made
  obtain ⟨readable, plain, stored⟩ := (read_text_ok_iff disk request.path text).mp read
  obtain ⟨slot, body, holds, replaced⟩ := (replace_matching_iff test _ _ _).mp found
  rw [replaced] at encoded
  obtain ⟨plainNew, rfl⟩ := (encode_ok_iff _ bytes).mp encoded
  have same := Slot.holds_text holds
  rw [same] at plain stored holds
  have shown : slot.Shows test patched.previous.toList (letterBytes (slot.fill body)) := by
    rw [Patched.previous, replaced]
    exact ⟨plain, holds, (Slot.bytes_fill slot body).symm⟩
  have fresh := ((Slot.plain_fill slot request.replacement.toList).mp plainNew).2.1
  rcases Disk.write_file disk request.path _ (letterBytes (slot.fill request.replacement.toList)) stored with
    ⟨writable, after, write, readBack⟩ | ⟨_, fault, write⟩
  · obtain rfl : after = patched.disk := Except.ok.inj (write.symm.trans written)
    exact ⟨test, _, _, compiled, readable, writable, stored, readBack, slot, shown, fresh, (Slot.bytes_fill slot _).symm⟩
  · cases write.symm.trans written

theorem patch_with_made (disk : Disk) (request : PatchRequest) (test : List Letter → Bool) (previous : List Letter)
    (old new : List UInt8) (readable : disk.canRead request.path = true) (writable : disk.canWrite request.path = true)
    (stored : disk.tree.read request.path = .ok old)
    (rewrites : Rewrites test previous request.replacement.toList old new) :
    ∃ patched, patchWith disk request (.ok test) = .ok patched ∧ patched.disk.tree.read request.path = .ok new := by
  obtain ⟨slot, ⟨plain, holds, rfl⟩, plainNew, rfl⟩ := rewrites
  rw [Slot.bytes_fill] at stored
  have read : readText disk request.path = .ok ⟨slot.fill previous⟩ :=
    (read_text_ok_iff disk request.path _).mpr ⟨readable, plain, stored⟩
  have found := (replace_matching_iff test request.replacement.toList (slot.fill previous) _).mpr
    ⟨slot, previous, holds, rfl⟩
  obtain ⟨above, _, ending, below⟩ := (Slot.plain_fill slot previous).mp plain
  have whole := (Slot.plain_fill slot request.replacement.toList).mpr ⟨above, plainNew, ending, below⟩
  have encoded := (encode_ok_iff ⟨slot.fill request.replacement.toList⟩ _).mpr ⟨whole, rfl⟩
  rcases Disk.write_file disk request.path _ (letterBytes (slot.fill request.replacement.toList)) stored with
    ⟨_, after, written, readBack⟩ | ⟨unwritable, _⟩
  · refine ⟨⟨after, slot.fill request.replacement.toList, previous, slot.above.length⟩, ?_, ?_⟩
    · exact (patch_with_iff disk request _ _).mpr ⟨test, _, _, read, rfl, found, encoded, written⟩
    · rw [Slot.bytes_fill]
      exact readBack
  · rw [writable] at unwritable
    cases unwritable

-- Two patches come to the same: both are refused for the same reason, or both leave the same bytes in the file.
inductive Concurs (path : Path) : Except PatchStop Patched → Except PatchStop Patched → Prop where
  | refused (stop : PatchStop) : Concurs path (.error stop) (.error stop)
  | made (patched other : Patched) (bytes : List UInt8) : patched.disk.tree.read path = .ok bytes →
      other.disk.tree.read path = .ok bytes → Concurs path (.ok patched) (.ok other)

section Comparing

variable (disk other : Disk) (request : PatchRequest) (test : List Letter → Bool)

theorem replaced_concurs (text textToo : Text) (replaced replacedToo : Replaced)
    (read : readText disk request.path = .ok text) (readToo : readText other request.path = .ok textToo)
    (found : replaceMatching test request.replacement.toList text.toList = .ok replaced)
    (foundToo : replaceMatching test request.replacement.toList textToo.toList = .ok replacedToo)
    (same : replaced.text = replacedToo.text) (writable : disk.canWrite request.path = other.canWrite request.path) :
    Concurs request.path (patchWith disk request (.ok test)) (patchWith other request (.ok test)) := by
  obtain ⟨_, _, stored⟩ := (read_text_ok_iff disk request.path text).mp read
  obtain ⟨_, _, storedToo⟩ := (read_text_ok_iff other request.path textToo).mp readToo
  rw [patchWith, patchWith, read, readToo]
  dsimp only
  rw [found, foundToo]
  dsimp only
  rw [same]
  cases encoded : encode? ⟨replacedToo.text⟩ with
  | error fault => exact .refused _
  | ok bytes =>
      dsimp only
      cases allowed : other.canWrite request.path with
      | false =>
          rw [Disk.write_forbidden disk request.path bytes (writable.trans allowed),
            Disk.write_forbidden other request.path bytes allowed]
          exact .refused _
      | true =>
          rcases Disk.write_file disk request.path _ bytes stored with ⟨_, after, written, back⟩ | ⟨forbidden, _⟩
          · rcases Disk.write_file other request.path _ bytes storedToo with
              ⟨_, afterToo, writtenToo, backToo⟩ | ⟨forbidden, _⟩
            · rw [written, writtenToo]
              exact .made _ _ bytes back backToo
            · cases forbidden.symm.trans allowed
          · cases forbidden.symm.trans (writable.trans allowed)

theorem same_text_concurs (compiled : Except Regex.Fault (List Letter → Bool))
    (same : readText disk request.path = readText other request.path)
    (writable : disk.canWrite request.path = other.canWrite request.path) :
    Concurs request.path (patchWith disk request compiled) (patchWith other request compiled) := by
  cases read : readText other request.path with
  | error fault =>
      rw [patchWith, patchWith, same, read]
      exact .refused _
  | ok text =>
      cases compiled with
      | error fault =>
          rw [patchWith, patchWith, same, read]
          exact .refused _
      | ok test =>
          cases found : replaceMatching test request.replacement.toList text.toList with
          | error count =>
              rw [patchWith, patchWith, same, read]
              dsimp only
              rw [found]
              exact .refused _
          | ok replaced =>
              exact replaced_concurs disk other request test text text replaced replaced (same.trans read) read found
                found rfl writable

theorem unreadable_text (unreadable : disk.canRead request.path = false) :
    readText disk request.path = .error (.system .permission request.path.text) := by
  rw [Disk.canRead, Bool.not_eq_false'] at unreadable
  rw [readText, Disk.read, if_pos unreadable]

-- A file in which the line was replaced by another body that matches is patched as the one that was there before.
theorem rewritten_concurs (previous fresh : List Letter) (old new : List UInt8)
    (rewrites : Rewrites test previous fresh old new) (isBody : IsBody fresh) (hit : test fresh = true)
    (stored : disk.tree.read request.path = .ok new) (storedToo : other.tree.read request.path = .ok old)
    (readable : disk.canRead request.path = other.canRead request.path)
    (writable : disk.canWrite request.path = other.canWrite request.path) :
    Concurs request.path (patchWith disk request (.ok test)) (patchWith other request (.ok test)) := by
  obtain ⟨slot, shown, plain, rfl⟩ := rewrites
  have filled := Slot.shows_filled slot test previous fresh old shown plain isBody hit
  cases allowed : other.canRead request.path with
  | false =>
      refine same_text_concurs disk other request _ ?_ writable
      rw [unreadable_text disk request (readable.trans allowed), unreadable_text other request allowed]
  | true =>
      rw [Slot.bytes_fill] at stored
      rw [shown.bytes, Slot.bytes_fill] at storedToo
      have read := (read_text_ok_iff disk request.path ⟨slot.fill fresh⟩).mpr
        ⟨readable.trans allowed, filled.plain, stored⟩
      have readToo := (read_text_ok_iff other request.path ⟨slot.fill previous⟩).mpr
        ⟨allowed, shown.plain, storedToo⟩
      have found := (replace_matching_iff test request.replacement.toList (slot.fill fresh) _).mpr
        ⟨slot, fresh, filled.holds, rfl⟩
      have foundToo := (replace_matching_iff test request.replacement.toList (slot.fill previous) _).mpr
        ⟨slot, previous, shown.holds, rfl⟩
      exact replaced_concurs disk other request test _ _ _ _ read readToo found foundToo rfl writable

end Comparing

-- A bench whose patches are made on the disk that the view shows. What else it does meanwhile is left open.
structure Bench.PatchesOn {σ : Type} (bench : Bench σ) (view : σ → Disk)
    (tests : Text → Except Regex.Fault (List Letter → Bool)) : Prop where
  made : ∀ call before patched, patchWith (view before) call.request (tests call.request.pattern) = .ok patched →
    (bench.patch call before).answer = .ok patched.previous ∧ view (bench.patch call before).state = patched.disk
  refused : ∀ call before stop, patchWith (view before) call.request (tests call.request.pattern) = .error stop →
    (bench.patch call before).answer = .error stop ∧ view (bench.patch call before).state = view before

theorem patch_disk_made (call : PatchCall) (disk : Disk) (patched : Patched)
    (made : patchWith disk call.request (lineTest call.request.pattern) = .ok patched) :
    (patchDisk call disk).answer = .ok patched.previous ∧ (patchDisk call disk).state = patched.disk := by
  rw [patchDisk, patch, made]
  exact ⟨rfl, rfl⟩

theorem patch_disk_refused (call : PatchCall) (disk : Disk) (stop : PatchStop)
    (refused : patchWith disk call.request (lineTest call.request.pattern) = .error stop) :
    (patchDisk call disk).answer = .error stop ∧ (patchDisk call disk).state = disk := by
  rw [patchDisk, patch, refused]
  exact ⟨rfl, rfl⟩

theorem patch_disk_permissions (call : PatchCall) (disk : Disk) :
    (patchDisk call disk).state.unreadable = disk.unreadable ∧
      (patchDisk call disk).state.unwritable = disk.unwritable := by
  rw [patchDisk, patch]
  cases made : patchWith disk call.request (lineTest call.request.pattern) with
  | error stop => exact ⟨rfl, rfl⟩
  | ok patched =>
      obtain ⟨test, text, bytes, done⟩ := (patch_with_iff disk call.request _ patched).mp made
      exact Disk.write_permissions disk patched.disk call.request.path bytes done.written

namespace Bench

variable {σ : Type} {bench : Bench σ} {view : σ → Disk} {tests : Text → Except Regex.Fault (List Letter → Bool)}

theorem patches_ok (patches : bench.PatchesOn view tests) (call : PatchCall) (before : σ) (previous : Text)
    (answer : (bench.patch call before).answer = .ok previous) :
    ∃ test old new, tests call.request.pattern = .ok test ∧
      (view before).canRead call.request.path = true ∧ (view before).canWrite call.request.path = true ∧
      (view before).tree.read call.request.path = .ok old ∧
      (view (bench.patch call before).state).tree.read call.request.path = .ok new ∧
      Rewrites test previous.toList call.request.replacement.toList old new := by
  cases made : patchWith (view before) call.request (tests call.request.pattern) with
  | error stop => cases (patches.refused call before stop made).1.symm.trans answer
  | ok patched =>
      obtain ⟨same, after⟩ := patches.made call before patched made
      cases same.symm.trans answer
      rw [after]
      exact patch_with_ok (view before) call.request _ patched made

theorem patches_error (patches : bench.PatchesOn view tests) (call : PatchCall) (before : σ) (stop : PatchStop)
    (answer : (bench.patch call before).answer = .error stop) :
    view (bench.patch call before).state = view before := by
  cases made : patchWith (view before) call.request (tests call.request.pattern) with
  | error stop => exact (patches.refused call before stop made).2
  | ok patched => cases (patches.made call before patched made).1.symm.trans answer

theorem patches_permissions (patches : bench.PatchesOn view tests) (call : PatchCall) (before : σ) :
    (view (bench.patch call before).state).unreadable = (view before).unreadable ∧
      (view (bench.patch call before).state).unwritable = (view before).unwritable := by
  cases made : patchWith (view before) call.request (tests call.request.pattern) with
  | error stop =>
      rw [(patches.refused call before stop made).2]
      exact ⟨rfl, rfl⟩
  | ok patched =>
      obtain ⟨test, text, bytes, done⟩ := (patch_with_iff _ call.request _ patched).mp made
      rw [(patches.made call before patched made).2]
      exact Disk.write_permissions (view before) patched.disk call.request.path bytes done.written

theorem patches_made (patches : bench.PatchesOn view tests) (call : PatchCall) (before : σ)
    (test : List Letter → Bool) (previous : List Letter) (old new : List UInt8)
    (compiled : tests call.request.pattern = .ok test) (readable : (view before).canRead call.request.path = true)
    (writable : (view before).canWrite call.request.path = true)
    (stored : (view before).tree.read call.request.path = .ok old)
    (rewrites : Rewrites test previous call.request.replacement.toList old new) :
    (view (bench.patch call before).state).tree.read call.request.path = .ok new := by
  obtain ⟨patched, made, readBack⟩ :=
    patch_with_made (view before) call.request test previous old new readable writable stored rewrites
  rw [← compiled] at made
  rw [(patches.made call before patched made).2]
  exact readBack

end Bench

end ConstantSweep.Sweep

import ConstantSweep.Proofs.Patch

set_option autoImplicit false

namespace ConstantSweep.Text

def Line.join (lines : List Line) : List Letter := lines.flatMap Line.toLetters

-- Lines as they follow each other in a text: only the last one may lack its line feed, and every ending is as long as
-- it can be.
structure AreLines (lines : List Line) : Prop where
  lined : Lined (lines.map Line.toLetters)
  parted : ∀ line ∈ lines, Parted line.toLetters line

theorem joined_lines (lines : List Line) : Line.join lines = (lines.map Line.toLetters).flatten := by
  rw [Line.join, List.flatMap_def]

theorem join_append (first second : List Line) : Line.join (first ++ second) = Line.join first ++ Line.join second :=
  List.flatMap_append

theorem join_cons (line : Line) (rest : List Line) : Line.join (line :: rest) = line.toLetters ++ Line.join rest :=
  List.flatMap_cons

theorem are_lines_cut (lines : List Line) (areLines : AreLines lines) :
    splitLines (Line.join lines) = lines.map Line.toLetters := by
  rw [joined_lines]
  exact split_lines_flatten _ areLines.lined

theorem of_letters_lines (lines : List Line) (areLines : AreLines lines) :
    (lines.map Line.toLetters).map Line.ofLetters = lines := by
  have each : ∀ line ∈ lines, Line.ofLetters line.toLetters = line := by
    intro line member
    exact parted_unique _ line (areLines.parted line member)
  rw [List.map_map]
  calc lines.map (Line.ofLetters ∘ Line.toLetters) = lines.map id := List.map_congr_left each
    _ = lines := List.map_id lines

theorem letters_of_lines (letters : List (List Letter)) : (letters.map Line.ofLetters).map Line.toLetters = letters := by
  have each : Line.toLetters ∘ Line.ofLetters = id := funext Line.to_letters_of_letters
  rw [List.map_map, each, List.map_id]

theorem join_of_letters (letters : List (List Letter)) : Line.join (letters.map Line.ofLetters) = letters.flatten := by
  rw [joined_lines, letters_of_lines]

theorem cut_join (text : List Letter) : Line.join ((splitLines text).map Line.ofLetters) = text := by
  rw [join_of_letters, flatten_split_lines]

theorem cut_are_lines (text : List Letter) : AreLines ((splitLines text).map Line.ofLetters) := by
  have lined := split_lines_lined text
  refine ⟨?_, ?_⟩
  · rw [letters_of_lines]
    exact lined
  · intro line member
    obtain ⟨letters, cut, rfl⟩ := List.mem_map.mp member
    rw [Line.to_letters_of_letters]
    exact lined_parted _ lined letters cut

end ConstantSweep.Text

namespace ConstantSweep.Sweep

open ConstantSweep.Text
open ConstantSweep.Text.Utf8

def hitCount (test : List Letter → Bool) (lines : List Line) : Nat := lines.countP fun line => test line.body

theorem hits_length (p : List Letter → Bool) (start : Nat) (lines : List (List Letter)) :
    (hits p start lines).length = lines.countP p := by
  induction lines generalizing start with
  | nil => rfl
  | cons first rest ih =>
      rw [hits_cons, List.countP_cons]
      cases hit : p first <;> simp [ih]

theorem matching_lines_count (test : List Letter → Bool) (lines : List Line) (areLines : AreLines lines) :
    (matchingLines test (Line.join lines)).length = hitCount test lines := by
  have each : (fun letters => test (Line.ofLetters letters).body) =
      (fun line : Line => test line.body) ∘ Line.ofLetters := rfl
  rw [matching_lines_hits, hits_length, are_lines_cut lines areLines, each, ← List.countP_map,
    of_letters_lines lines areLines, hitCount]

theorem single_hit (test : List Letter → Bool) (above below : List Line) (line : Line) (hit : test line.body = true)
    (others : ∀ other ∈ above ++ below, test other.body = false) : hitCount test (above ++ line :: below) = 1 := by
  obtain ⟨early, late⟩ := List.forall_mem_append.mp others
  have noneAbove : above.countP (fun line => test line.body) = 0 := by
    apply List.countP_eq_zero.mpr
    intro other member
    simp [early other member]
  have noneBelow : below.countP (fun line => test line.body) = 0 := by
    apply List.countP_eq_zero.mpr
    intro other member
    simp [late other member]
  simp [hitCount, List.countP_append, noneAbove, noneBelow, hit]

theorem replace_matching_error (test : List Letter → Bool) (replacement text : List Letter) (count : Nat) :
    replaceMatching test replacement text = .error count ↔ (matchingLines test text).length = count ∧ count ≠ 1 := by
  rw [replaceMatching]
  split
  · rename_i index found
    rw [found]
    constructor
    · intro refused
      cases refused
    · rintro ⟨rfl, several⟩
      exact absurd rfl several
  · rename_i others several
    constructor
    · intro refused
      cases refused
      refine ⟨rfl, ?_⟩
      intro single
      obtain ⟨index, same⟩ := List.length_eq_one_iff.mp single
      exact several index same
    · rintro ⟨rfl, _⟩
      rfl

theorem slot_lines (slot : Slot) (test : List Letter → Bool) (body : List Letter) (lines : List Line)
    (areLines : AreLines lines) (holds : slot.Holds test body (Line.join lines)) :
    ∃ above line below, lines = above ++ line :: below ∧ line.body = body ∧ test line.body = true ∧
      (∀ other ∈ above ++ below, test other.body = false) ∧
      ∀ fresh, slot.fill fresh = Line.join above ++ (fresh ++ line.ending) ++ Line.join below := by
  have cut : lines.map Line.toLetters = slot.lines body := (are_lines_cut lines areLines).symm.trans holds.cut
  have whole : lines = slot.above.map Line.ofLetters ++ ⟨body, slot.ending⟩ :: slot.below.map Line.ofLetters := by
    rw [← of_letters_lines lines areLines, cut, Slot.lines, List.map_append, List.map_cons, holds.parted]
  refine ⟨slot.above.map Line.ofLetters, ⟨body, slot.ending⟩, slot.below.map Line.ofLetters, whole, rfl, holds.hit,
    ?_, ?_⟩
  · intro other member
    rw [← List.map_append] at member
    obtain ⟨letters, listed, rfl⟩ := List.mem_map.mp member
    exact holds.others letters listed
  · intro fresh
    rw [Slot.fill, Slot.lines, List.flatten_append, List.flatten_cons, join_of_letters, join_of_letters]
    simp only [List.append_assoc]

def lineBytes (lines : List Line) : List UInt8 := letterBytes (Line.join lines)

-- The path leads to a file that may be read, and these are its lines.
structure Shows (disk : Disk) (path : Path) (place : List Text) (executable : Bool) (lines : List Line) : Prop where
  resolved : disk.tree.resolve path = .ok place
  file : disk.tree.at? place = some (.file (lineBytes lines) executable)
  readable : disk.canRead path = true
  plain : Plain (Line.join lines)
  areLines : AreLines lines

theorem read_text_shows (disk : Disk) (path : Path) (text : Text) (read : readText disk path = .ok text) :
    ∃ place executable lines, Shows disk path place executable lines ∧ text.toList = Line.join lines := by
  obtain ⟨readable, plain, stored⟩ := (read_text_ok_iff disk path text).mp read
  obtain ⟨place, executable, resolved, file⟩ := (FileTree.read_ok_iff disk.tree path _).mp stored
  have joined := cut_join text.toList
  refine ⟨place, executable, (splitLines text.toList).map Line.ofLetters,
    ⟨resolved, ?_, readable, ?_, cut_are_lines text.toList⟩, joined.symm⟩
  · rw [lineBytes, joined]
    exact file
  · rw [joined]
    exact plain

theorem shows_read_text {disk : Disk} {path : Path} {place : List Text} {executable : Bool} {lines : List Line}
    (shows : Shows disk path place executable lines) : readText disk path = .ok ⟨Line.join lines⟩ := by
  apply (read_text_ok_iff disk path _).mpr
  exact ⟨shows.readable, shows.plain,
    (FileTree.read_ok_iff disk.tree path _).mpr ⟨place, executable, shows.resolved, shows.file⟩⟩

-- The disk after a file has been written: the file keeps its mode, every other place its entry.
structure Overwritten (disk after : Disk) (place : List Text) (executable : Bool) (bytes : List UInt8) : Prop where
  file : after.tree.at? place = some (.file bytes executable)
  others : ∀ other, other ≠ place → after.tree.at? other = disk.tree.at? other
  unreadable : after.unreadable = disk.unreadable
  unwritable : after.unwritable = disk.unwritable

theorem write_overwrites {disk : Disk} {path : Path} {place : List Text} {executable : Bool} {lines : List Line}
    (shows : Shows disk path place executable lines) (bytes : List UInt8) (after : Disk)
    (written : disk.write path bytes = .ok after) :
    disk.canWrite path = true ∧ Overwritten disk after place executable bytes := by
  obtain ⟨sameRead, sameWrite⟩ := Disk.write_permissions disk after path bytes written
  cases allowed : disk.canWrite path with
  | false =>
      rw [Disk.write_forbidden disk path bytes allowed] at written
      cases written
  | true =>
      rw [Disk.write_allowed disk path bytes allowed,
        FileTree.write_found disk.tree path place _ bytes executable shows.resolved shows.file] at written
      cases written
      have noDirectory : disk.tree.at? place ≠ some .directory := by simp [shows.file]
      have found (here : List Text) := FileTree.at_put disk.tree place here (.file bytes executable) noDirectory
      refine ⟨rfl, ?_, ?_, sameRead, sameWrite⟩
      · rw [found, if_pos rfl]
      · intro other different
        rw [found, if_neg different]

structure Admits (disk : Disk) (request : PatchRequest) (compiled : Except Regex.Fault (List Letter → Bool))
    (place : List Text) (executable : Bool) (lines : List Line) (test : List Letter → Bool) : Prop where
  shows : Shows disk request.path place executable lines
  pattern : compiled = .ok test
  single : hitCount test lines = 1
  encodable : Plain request.replacement.toList
  writable : disk.canWrite request.path = true

-- What it leaves: the one line that matches has another body, which is told, and nothing else has changed.
structure Exchanges (disk : Disk) (request : PatchRequest) (test : List Letter → Bool) (place : List Text)
    (executable : Bool) (above : List Line) (line : Line) (below : List Line) (patched : Patched) : Prop where
  hit : test line.body = true
  others : ∀ other ∈ above ++ below, test other.body = false
  previous : patched.previous = ⟨line.body⟩
  old : disk.tree.at? place = some (.file (lineBytes above ++ (letterBytes line.body ++ letterBytes line.ending) ++
    lineBytes below) executable)
  new : Overwritten disk patched.disk place executable (lineBytes above ++
    (letterBytes request.replacement.toList ++ letterBytes line.ending) ++ lineBytes below)

inductive Counted (disk : Disk) (request : PatchRequest) (compiled : Except Regex.Fault (List Letter → Bool)) :
    PatchReason → Int → Prop where
  | missing : (∀ place executable lines, ¬ Shows disk request.path place executable lines) →
      Counted disk request compiled .fileNotFound 0
  | unread (fault : Fault) : (∀ place executable lines, ¬ Shows disk request.path place executable lines) →
      Counted disk request compiled (.cannotRead fault) 0
  | unpatterned (fault : Regex.Malformed) : compiled = .error (.malformed fault) →
      Counted disk request compiled (.invalidPattern fault) 0
  | counted (place : List Text) (executable : Bool) (lines : List Line) (test : List Letter → Bool) :
      Shows disk request.path place executable lines → compiled = .ok test → hitCount test lines ≠ 1 →
      Counted disk request compiled .lines (hitCount test lines)
  | unwritten (place : List Text) (executable : Bool) (lines : List Line) (test : List Letter → Bool) (fault : Fault) :
      Shows disk request.path place executable lines → compiled = .ok test → hitCount test lines = 1 →
      disk.canWrite request.path = false → Counted disk request compiled (.cannotWrite fault) 1

section Patching

variable (disk : Disk) (request : PatchRequest) (compiled : Except Regex.Fault (List Letter → Bool))

theorem exchange_bytes (above below : List Line) (fresh ending : List Letter) :
    letterBytes (Line.join above ++ (fresh ++ ending) ++ Line.join below) =
      lineBytes above ++ (letterBytes fresh ++ letterBytes ending) ++ lineBytes below := by
  rw [letter_bytes_append, letter_bytes_append, letter_bytes_append]
  rfl

theorem patch_exchanges (patched : Patched) (made : patchWith disk request compiled = .ok patched) :
    ∃ place executable above line below test,
      Admits disk request compiled place executable (above ++ line :: below) test ∧
      Exchanges disk request test place executable above line below patched := by
  obtain ⟨test, text, bytes, read, known, found, encoded, written⟩ :=
    (patch_with_iff disk request compiled patched).mp made
  obtain ⟨place, executable, lines, shows, joined⟩ := read_text_shows disk request.path text read
  rw [joined] at found
  obtain ⟨slot, body, holds, replaced⟩ := (replace_matching_iff test _ _ _).mp found
  obtain ⟨above, line, below, rfl, rfl, hit, others, fill⟩ := slot_lines slot test body lines shows.areLines holds
  obtain ⟨plain, rfl⟩ := (encode_ok_iff _ bytes).mp encoded
  have text : patched.replaced.text =
      Line.join above ++ (request.replacement.toList ++ line.ending) ++ Line.join below := by
    rw [replaced]
    exact fill request.replacement.toList
  rw [text] at plain written
  obtain ⟨writable, overwritten⟩ := write_overwrites shows _ patched.disk written
  rw [exchange_bytes] at overwritten
  have encodable : Plain request.replacement.toList :=
    ((plain_append _ _).mp ((plain_append _ _).mp ((plain_append _ _).mp plain).1).2).1
  refine ⟨place, executable, above, line, below, test,
    ⟨shows, known, single_hit test above below line hit others, encodable, writable⟩,
    ⟨hit, others, ?_, ?_, overwritten⟩⟩
  · rw [Patched.previous, replaced]
  · rw [shows.file, lineBytes, join_append, join_cons, ← exchange_bytes, ← List.append_assoc]
    rfl

theorem admitted_patch (place : List Text) (executable : Bool) (lines : List Line) (test : List Letter → Bool)
    (admits : Admits disk request compiled place executable lines test) :
    ∃ patched, patchWith disk request compiled = .ok patched := by
  have read := shows_read_text admits.shows
  cases found : replaceMatching test request.replacement.toList (Line.join lines) with
  | error count =>
      obtain ⟨counted, several⟩ := (replace_matching_error test _ _ count).mp found
      rw [matching_lines_count test lines admits.shows.areLines, admits.single] at counted
      exact absurd counted.symm several
  | ok replaced =>
      obtain ⟨slot, body, holds, rfl⟩ := (replace_matching_iff test _ _ _).mp found
      have plain := admits.shows.plain
      rw [Slot.holds_text holds, Slot.plain_fill] at plain
      have plainNew : Plain (slot.fill request.replacement.toList) :=
        (Slot.plain_fill slot _).mpr ⟨plain.1, admits.encodable, plain.2.2⟩
      have encoded := (encode_ok_iff ⟨slot.fill request.replacement.toList⟩ _).mpr ⟨plainNew, rfl⟩
      have stored := ((read_text_ok_iff disk request.path _).mp read).2.2
      rcases Disk.write_file disk request.path _ (letterBytes (slot.fill request.replacement.toList)) stored with
        ⟨_, after, written, _⟩ | ⟨unwritable, _⟩
      · exact ⟨⟨after, _⟩, (patch_with_iff disk request compiled _).mpr
          ⟨test, _, _, read, admits.pattern, found, encoded, written⟩⟩
      · exact absurd (admits.writable.symm.trans unwritable) (by simp)

theorem unread_unshown (fault : Fault) (read : readText disk request.path = .error fault) (place : List Text)
    (executable : Bool) (lines : List Line) : ¬ Shows disk request.path place executable lines := by
  intro shows
  rw [shows_read_text shows] at read
  cases read

theorem read_stop_counted (fault : Fault) (failure : PatchFailure)
    (read : readText disk request.path = .error fault) (stopped : readStop request fault = .failure failure) :
    Counted disk request compiled failure.reason failure.lineCount := by
  have unshown := unread_unshown disk request fault read
  unfold readStop at stopped
  split at stopped <;> cases stopped
  · exact .missing unshown
  · exact .unread _ unshown
  · exact .unread _ unshown

theorem pattern_stop_counted (fault : Regex.Fault) (failure : PatchFailure) (refused : compiled = .error fault)
    (stopped : patternStop request fault = .failure failure) :
    Counted disk request compiled failure.reason failure.lineCount := by
  cases fault <;> cases stopped
  exact .unpatterned _ refused

theorem patch_counts (failure : PatchFailure) (refused : patchWith disk request compiled = .error (.failure failure)) :
    Counted disk request compiled failure.reason failure.lineCount := by
  rw [patchWith] at refused
  cases read : readText disk request.path with
  | error fault =>
      rw [read] at refused
      exact read_stop_counted disk request compiled fault failure read (Except.error.inj refused)
  | ok text =>
      obtain ⟨place, executable, lines, shows, joined⟩ := read_text_shows disk request.path text read
      rw [read] at refused
      dsimp only at refused
      rw [joined] at refused
      cases known : compiled with
      | error fault =>
          rw [known] at refused
          exact pattern_stop_counted disk request _ fault failure rfl (Except.error.inj refused)
      | ok test =>
          rw [known] at refused
          dsimp only at refused
          cases found : replaceMatching test request.replacement.toList (Line.join lines) with
          | error count =>
              rw [found] at refused
              cases refused
              obtain ⟨counted, several⟩ := (replace_matching_error test _ _ count).mp found
              rw [matching_lines_count test lines shows.areLines] at counted
              subst counted
              exact .counted place executable lines test shows rfl several
          | ok replaced =>
              rw [found] at refused
              dsimp only at refused
              obtain ⟨slot, body, holds, _⟩ := (replace_matching_iff test _ _ _).mp found
              obtain ⟨above, line, below, rfl, _, hit, others, _⟩ := slot_lines slot test body lines shows.areLines holds
              cases encoded : encode? ⟨replaced.text⟩ with
              | error fault =>
                  rw [encoded] at refused
                  cases refused
              | ok bytes =>
                  rw [encoded] at refused
                  dsimp only at refused
                  have stored := ((read_text_ok_iff disk request.path _).mp (shows_read_text shows)).2.2
                  rcases Disk.write_file disk request.path _ bytes stored with
                    ⟨_, after, written, _⟩ | ⟨unwritable, _⟩
                  · rw [written] at refused
                    cases refused
                  · rw [Disk.write_forbidden disk request.path bytes unwritable] at refused
                    cases refused
                    exact .unwritten place executable _ test _ shows rfl (single_hit test above below line hit others)
                      unwritable

theorem patch_names (failure : PatchFailure) (refused : patchWith disk request compiled = .error (.failure failure)) :
    failure.path = request.path ∧ failure.pattern = request.pattern := by
  have read (fault : Fault) (stopped : readStop request fault = .failure failure) :
      failure.path = request.path ∧ failure.pattern = request.pattern := by
    unfold readStop at stopped
    split at stopped <;> cases stopped <;> exact ⟨rfl, rfl⟩
  have pattern (fault : Regex.Fault) (stopped : patternStop request fault = .failure failure) :
      failure.path = request.path ∧ failure.pattern = request.pattern := by
    cases fault <;> cases stopped
    exact ⟨rfl, rfl⟩
  have write (fault : Fault) (stopped : writeStop request fault = .failure failure) :
      failure.path = request.path ∧ failure.pattern = request.pattern := by
    unfold writeStop at stopped
    split at stopped <;> cases stopped
    exact ⟨rfl, rfl⟩
  rw [patchWith] at refused
  split at refused
  · exact read _ (Except.error.inj refused)
  · split at refused
    · exact pattern _ (Except.error.inj refused)
    · split at refused
      · cases refused
        exact ⟨rfl, rfl⟩
      · split at refused
        · cases refused
        · split at refused
          · exact write _ (Except.error.inj refused)
          · cases refused

end Patching

theorem patch_disk_answers (disk : Disk) (call : PatchCall) :
    (∀ previous, (patchDisk call disk).answer = .ok previous →
      ∃ patched, patchWith disk call.request (lineTest call.request.pattern) = .ok patched ∧
        patched.previous = previous ∧ (patchDisk call disk).state = patched.disk) ∧
    (∀ stop, (patchDisk call disk).answer = .error stop →
      patchWith disk call.request (lineTest call.request.pattern) = .error stop ∧
        (patchDisk call disk).state = disk) := by
  cases made : patchWith disk call.request (lineTest call.request.pattern) with
  | ok patched =>
      obtain ⟨answer, state⟩ := patch_disk_made call disk patched made
      refine ⟨?_, ?_⟩
      · intro previous answered
        exact ⟨patched, rfl, Except.ok.inj (answer.symm.trans answered), state⟩
      · intro stop answered
        cases answer.symm.trans answered
  | error stop =>
      obtain ⟨answer, state⟩ := patch_disk_refused call disk stop made
      refine ⟨?_, ?_⟩
      · intro previous answered
        cases answer.symm.trans answered
      · intro other answered
        cases answer.symm.trans answered
        exact ⟨rfl, state⟩

theorem patch_exchanges_one_line_or_nothing (disk : Disk) (call : PatchCall)
    (compiled : Except Regex.Fault (List Letter → Bool)) :
    ((∃ patched, patchWith disk call.request compiled = .ok patched) ↔
      ∃ place executable lines test, Admits disk call.request compiled place executable lines test) ∧
    (∀ patched, patchWith disk call.request compiled = .ok patched →
      ∃ place executable above line below test,
        Admits disk call.request compiled place executable (above ++ line :: below) test ∧
        Exchanges disk call.request test place executable above line below patched) ∧
    (∀ failure, patchWith disk call.request compiled = .error (.failure failure) →
      failure.path = call.request.path ∧ failure.pattern = call.request.pattern ∧
        Counted disk call.request compiled failure.reason failure.lineCount) ∧
    (∀ previous, (patchDisk call disk).answer = .ok previous →
      ∃ patched, patchWith disk call.request (lineTest call.request.pattern) = .ok patched ∧
        patched.previous = previous ∧ (patchDisk call disk).state = patched.disk) ∧
    (∀ stop, (patchDisk call disk).answer = .error stop →
      patchWith disk call.request (lineTest call.request.pattern) = .error stop ∧
        (patchDisk call disk).state = disk) := by
  refine ⟨⟨?_, ?_⟩, ?_, ?_, patch_disk_answers disk call⟩
  · rintro ⟨patched, made⟩
    obtain ⟨place, executable, above, line, below, test, admits, _⟩ :=
      patch_exchanges disk call.request compiled patched made
    exact ⟨place, executable, above ++ line :: below, test, admits⟩
  · rintro ⟨place, executable, lines, test, admits⟩
    exact admitted_patch disk call.request compiled place executable lines test admits
  · exact patch_exchanges disk call.request compiled
  · intro failure refused
    obtain ⟨path, pattern⟩ := patch_names disk call.request compiled failure refused
    exact ⟨path, pattern, patch_counts disk call.request compiled failure refused⟩

end ConstantSweep.Sweep

import ConstantSweep.Proofs.Patch

set_option autoImplicit false

namespace ConstantSweep.Sweep

open ConstantSweep.Text
open ConstantSweep.Text.Utf8

structure Focus where
  place : List Text
  executable : Bool
  slot : Slot

-- The path leads to this file, which may be read and written and holds this text.
structure Opens (disk : Disk) (path : Path) (place : List Text) (executable : Bool) (text : List Letter) : Prop where
  resolved : disk.tree.resolve path = .ok place
  file : disk.tree.at? place = some (.file (letterBytes text) executable)
  readable : disk.canRead path = true
  writable : disk.canWrite path = true
  plain : Plain text

theorem read_opens (disk : Disk) (path : Path) (text : Text) (read : readText disk path = .ok text)
    (writable : disk.canWrite path = true) :
    ∃ place executable, Opens disk path place executable text.toList := by
  obtain ⟨readable, plain, stored⟩ := (read_text_ok_iff disk path text).mp read
  obtain ⟨place, executable, resolved, file⟩ := (FileTree.read_ok_iff disk.tree path _).mp stored
  exact ⟨place, executable, resolved, file, readable, writable, plain⟩

namespace Focus

def put (focus : Focus) (disk : Disk) (body : List Letter) : Disk :=
  { disk with tree := disk.tree.put focus.place (.file (focus.slot.bytes body) focus.executable) }

-- The file may be read and written, and the line with this body is the only one in it that passes the test.
structure Finds (focus : Focus) (disk : Disk) (path : Path) (test : List Letter → Bool) (body : List Letter) : Prop where
  resolved : disk.tree.resolve path = .ok focus.place
  file : disk.tree.at? focus.place = some (.file (focus.slot.bytes body) focus.executable)
  readable : disk.canRead path = true
  writable : disk.canWrite path = true
  shown : focus.slot.Shows test body (focus.slot.bytes body)

variable {focus : Focus} {disk : Disk} {path : Path} {test : List Letter → Bool} {body : List Letter}

theorem finds_file (finds : focus.Finds disk path test body) : disk.tree.at? focus.place ≠ some .directory := by
  rw [finds.file]
  intro same
  cases same

theorem put_put (slot : Slot) (first second : List Letter) :
    put { focus with slot := slot } (focus.put disk first) second = put { focus with slot := slot } disk second :=
  congrArg (fun tree => { disk with tree := tree }) (FileTree.put_put disk.tree focus.place _ _)

theorem put_found (finds : focus.Finds disk path test body) : focus.put disk body = disk :=
  congrArg (fun tree => { disk with tree := tree })
    (FileTree.put_found disk.tree focus.place _ finds.file (finds_file finds))

theorem opens_finds {place : List Text} {executable : Bool} {text : List Letter} {slot : Slot}
    (opens : Opens disk path place executable text) (holds : slot.Holds test body text) :
    Finds ⟨place, executable, slot⟩ disk path test body := by
  have same := Slot.holds_text holds
  rw [same] at opens holds
  refine ⟨opens.resolved, ?_, opens.readable, opens.writable, opens.plain, holds, rfl⟩
  rw [Slot.bytes_fill]
  exact opens.file

theorem put_opens (finds : focus.Finds disk path test body) (fresh : List Letter) (plain : Plain fresh) :
    Opens (focus.put disk fresh) path focus.place focus.executable (focus.slot.fill fresh) := by
  obtain ⟨above, _, ending, below⟩ := (Slot.plain_fill focus.slot body).mp finds.shown.plain
  constructor
  · exact FileTree.resolve_put disk.tree focus.place focus.place _ path (finds_file finds) finds.resolved
  · rw [put, FileTree.at_put disk.tree focus.place focus.place _ (finds_file finds), if_pos rfl, Slot.bytes_fill]
  · exact finds.readable
  · exact finds.writable
  · exact (Slot.plain_fill focus.slot fresh).mpr ⟨above, plain, ending, below⟩

theorem finds_put (finds : focus.Finds disk path test body) (fresh : List Letter) (plain : Plain fresh)
    (isBody : IsBody fresh) (hit : test fresh = true) : focus.Finds (focus.put disk fresh) path test fresh :=
  opens_finds (put_opens finds fresh plain) (Slot.fill_holds fresh finds.shown.holds isBody hit)

theorem finds_patch (finds : focus.Finds disk path test body) (pattern fresh : Text) (plain : Plain fresh.toList) :
    patchWith disk ⟨path, pattern, fresh⟩ (.ok test) =
      .ok ⟨focus.put disk fresh.toList, focus.slot.fill fresh.toList, body, focus.slot.above.length⟩ := by
  have stored := (FileTree.read_ok_iff disk.tree path _).mpr
    ⟨focus.place, focus.executable, finds.resolved, finds.file⟩
  rw [Slot.bytes_fill] at stored
  obtain ⟨above, _, ending, below⟩ := (Slot.plain_fill focus.slot body).mp finds.shown.plain
  have whole := (Slot.plain_fill focus.slot fresh.toList).mpr ⟨above, plain, ending, below⟩
  apply (patch_with_iff disk _ _ _).mpr
  refine ⟨test, ⟨focus.slot.fill body⟩, focus.slot.bytes fresh.toList, ?_⟩
  constructor
  · exact (read_text_ok_iff disk path _).mpr ⟨finds.readable, finds.shown.plain, stored⟩
  · rfl
  · exact (replace_matching_iff test _ _ _).mpr ⟨focus.slot, body, finds.shown.holds, rfl⟩
  · exact (encode_ok_iff _ _).mpr ⟨whole, Slot.bytes_fill focus.slot fresh.toList⟩
  · rw [Disk.write_allowed disk path _ finds.writable,
      FileTree.write_found disk.tree path focus.place _ _ focus.executable finds.resolved finds.file]
    rfl

end Focus

theorem patch_finds (disk : Disk) (request : PatchRequest) (compiled : Except Regex.Fault (List Letter → Bool))
    (patched : Patched) (made : patchWith disk request compiled = .ok patched) :
    ∃ test body, ∃ focus : Focus, compiled = .ok test ∧ focus.Finds disk request.path test body ∧
      Plain request.replacement.toList := by
  obtain ⟨test, text, bytes, read, known, found, encoded, written⟩ :=
    (patch_with_iff disk request compiled patched).mp made
  have writable : disk.canWrite request.path = true := by
    obtain ⟨_, _, stored⟩ := (read_text_ok_iff disk request.path text).mp read
    rcases Disk.write_file disk request.path _ bytes stored with ⟨allowed, _⟩ | ⟨_, fault, refused⟩
    · exact allowed
    · cases refused.symm.trans written
  obtain ⟨place, executable, opens⟩ := read_opens disk request.path text read writable
  obtain ⟨slot, body, holds, replaced⟩ := (replace_matching_iff test _ _ _).mp found
  have whole := ((encode_ok_iff _ bytes).mp encoded).1
  rw [replaced] at whole
  have fresh := ((Slot.plain_fill slot request.replacement.toList).mp whole).2.1
  exact ⟨test, body, ⟨place, executable, slot⟩, known, Focus.opens_finds opens holds, fresh⟩

structure Suits (test : List Letter → Bool) (line : Text) : Prop where
  isBody : IsBody line.toList
  hit : test line.toList = true

-- The laws of the patches of one file by one pattern. They speak of the whole disk, and so of every byte of the file.
structure ObeysLensLaws (disk : Disk) (path : Path) (pattern : Text) (test : List Letter → Bool) (line : Text) :
    Prop where
  made_iff : ∀ fresh, (∃ put, patch disk ⟨path, pattern, fresh⟩ = .ok put) ↔ Plain fresh.toList
  told : ∀ fresh put, patch disk ⟨path, pattern, fresh⟩ = .ok put → put.previous = line
  undone : ∀ fresh put, Suits test fresh → patch disk ⟨path, pattern, fresh⟩ = .ok put →
    ∃ back, patch put.disk ⟨path, pattern, put.previous⟩ = .ok back ∧ back.disk = disk
  unchanged : ∃ same, patch disk ⟨path, pattern, line⟩ = .ok same ∧ same.disk = disk
  found : ∀ fresh put next, Suits test fresh → patch disk ⟨path, pattern, fresh⟩ = .ok put → Plain next.toList →
    ∃ later, patch put.disk ⟨path, pattern, next⟩ = .ok later ∧ later.previous = fresh
  replaced : ∀ first put second, Suits test first → patch disk ⟨path, pattern, first⟩ = .ok put →
    Plain second.toList →
    ∃ later alone, patch put.disk ⟨path, pattern, second⟩ = .ok later ∧
      patch disk ⟨path, pattern, second⟩ = .ok alone ∧ later.disk = alone.disk

section Laws

variable {focus : Focus} {disk : Disk} {path : Path} {pattern : Text} {test : List Letter → Bool} {body : List Letter}

theorem put_of_patch (finds : focus.Finds disk path test body) (known : lineTest pattern = .ok test) (fresh : Text)
    (put : Patched) (made : patch disk ⟨path, pattern, fresh⟩ = .ok put) :
    Plain fresh.toList ∧ put.disk = focus.put disk fresh.toList ∧ put.previous = ⟨body⟩ := by
  obtain ⟨_, _, _, _, _, plain⟩ := patch_finds disk _ _ put made
  have same := Focus.finds_patch finds pattern fresh plain
  rw [patch, known] at made
  cases same.symm.trans made
  exact ⟨plain, rfl, rfl⟩

theorem patch_of_put (finds : focus.Finds disk path test body) (known : lineTest pattern = .ok test) (fresh : Text)
    (plain : Plain fresh.toList) :
    ∃ put, patch disk ⟨path, pattern, fresh⟩ = .ok put ∧ put.disk = focus.put disk fresh.toList ∧
      put.previous = ⟨body⟩ := by
  rw [patch, known]
  exact ⟨_, Focus.finds_patch finds pattern fresh plain, rfl, rfl⟩

theorem found_obeys (finds : focus.Finds disk path test body) (known : lineTest pattern = .ok test) :
    ObeysLensLaws disk path pattern test ⟨body⟩ := by
  have whole := ((Slot.plain_fill focus.slot body).mp finds.shown.plain).2.1
  -- After a patch with a line that suits, the same focus finds that line.
  have again (fresh : Text) (put : Patched) (suits : Suits test fresh)
      (made : patch disk ⟨path, pattern, fresh⟩ = .ok put) :
      put.disk = focus.put disk fresh.toList ∧ focus.Finds put.disk path test fresh.toList := by
    obtain ⟨plain, after, _⟩ := put_of_patch finds known fresh put made
    rw [after]
    exact ⟨rfl, Focus.finds_put finds fresh.toList plain suits.isBody suits.hit⟩
  constructor
  · intro fresh
    constructor
    · rintro ⟨put, made⟩
      exact (put_of_patch finds known fresh put made).1
    · intro plain
      obtain ⟨put, made, _⟩ := patch_of_put finds known fresh plain
      exact ⟨put, made⟩
  · intro fresh put made
    exact (put_of_patch finds known fresh put made).2.2
  · intro fresh put suits made
    obtain ⟨after, findsAgain⟩ := again fresh put suits made
    rw [(put_of_patch finds known fresh put made).2.2]
    obtain ⟨back, madeBack, restored, _⟩ := patch_of_put findsAgain known ⟨body⟩ whole
    refine ⟨back, madeBack, ?_⟩
    calc back.disk = focus.put put.disk body := restored
      _ = focus.put disk body := by rw [after, Focus.put_put]
      _ = disk := Focus.put_found finds
  · obtain ⟨same, made, kept, _⟩ := patch_of_put finds known ⟨body⟩ whole
    exact ⟨same, made, kept.trans (Focus.put_found finds)⟩
  · intro fresh put next suits made plain
    obtain ⟨_, findsAgain⟩ := again fresh put suits made
    obtain ⟨later, madeLater, _, told⟩ := patch_of_put findsAgain known next plain
    exact ⟨later, madeLater, told⟩
  · intro first put second suits made plain
    obtain ⟨after, findsAgain⟩ := again first put suits made
    obtain ⟨later, madeLater, lastly, _⟩ := patch_of_put findsAgain known second plain
    obtain ⟨alone, madeAlone, directly, _⟩ := patch_of_put finds known second plain
    refine ⟨later, alone, madeLater, madeAlone, ?_⟩
    calc later.disk = focus.put put.disk second.toList := lastly
      _ = focus.put disk second.toList := by rw [after, Focus.put_put]
      _ = alone.disk := directly.symm

end Laws

-- Wherever one patch can be made, all patches of the file by the pattern obey the laws.
theorem patches_obey_lens_laws (disk : Disk) (path : Path) (pattern fresh : Text) (patched : Patched)
    (made : patch disk ⟨path, pattern, fresh⟩ = .ok patched) :
    ∃ test, lineTest pattern = .ok test ∧ ObeysLensLaws disk path pattern test patched.previous := by
  obtain ⟨test, body, focus, known, finds, _⟩ := patch_finds disk _ _ patched made
  rw [(put_of_patch finds known fresh patched made).2.2]
  exact ⟨test, known, found_obeys finds known⟩

namespace Sample

-- The line that is found is the last one. It has no line feed, and ends with a carriage return.
def unended : Disk := ⟨⟨[(["c.txt"], .file [65, 13, 10, 88, 61, 49, 13] false)]⟩, [], []⟩

def doubling : PatchRequest := ⟨Path.ofText "c.txt", "X", "X=2"⟩

end Sample

theorem patches_obey_lens_laws_once :
    ∃ patched test, patch Sample.unended Sample.doubling = .ok patched ∧ patched.previous = "X=1\r" ∧
      lineTest "X" = .ok test ∧ Suits test "X=2" ∧
      ObeysLensLaws Sample.unended (Path.ofText "c.txt") "X" test "X=1\r" := by
  have known : (patch Sample.unended Sample.doubling).toOption.map Patched.previous = some "X=1\r" := by
    decide +kernel
  have hit : (lineTest "X").toOption.map (fun test => test (Text.ofString "X=2").toList) = some true := by
    decide +kernel
  cases made : patch Sample.unended Sample.doubling with
  | error stop =>
      rw [made] at known
      cases known
  | ok patched =>
      rw [made] at known
      have told := Option.some.inj known
      obtain ⟨test, compiled, laws⟩ :=
        patches_obey_lens_laws Sample.unended (Path.ofText "c.txt") "X" "X=2" patched made
      rw [told] at laws
      rw [compiled] at hit
      exact ⟨patched, test, rfl, told, compiled, ⟨⟨by decide, by decide, by decide⟩, Option.some.inj hit⟩, laws⟩

end ConstantSweep.Sweep

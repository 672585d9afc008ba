import ConstantSweep.FileTree
import ConstantSweep.Proofs.Utf8

set_option autoImplicit false

namespace ConstantSweep

open ConstantSweep.Text

-- There are bytes for the path, so that the file system can be asked for it.
structure Path.IsNamed (path : Path) : Prop where
  letters : ∀ letter ∈ path.text.toList, letter.isHalf = true → Utf8.standsForByte letter.code = true
  noNull : path.holdsNull = false

namespace FileTree

theorem put_entries_lookup (place other : List Text) (entry : Entry) (entries : List (List Text × Entry)) :
    (put.go place entry entries).lookup other = if other = place then some entry else entries.lookup other := by
  induction entries with
  | nil =>
      rw [put.go, List.lookup_cons]
      by_cases same : other = place
      · simp [same]
      · simp [same, beq_false_of_ne same]
  | cons first rest ih =>
      obtain ⟨name, old⟩ := first
      by_cases found : name = place
      · subst found
        rw [put.go, if_pos (beq_self_eq_true name), List.lookup_cons, List.lookup_cons]
        by_cases same : other = name
        · simp [same]
        · simp [same, beq_false_of_ne same]
      · rw [put.go, if_neg (by simpa using found), List.lookup_cons, List.lookup_cons]
        by_cases here : other = name
        · subst here
          simp [found]
        · rw [beq_false_of_ne here]
          exact ih

theorem other_inside (tree : FileTree) (place : List Text) (other : tree.at? place ≠ some .directory) :
    isAbove place = false ∧ place ≠ root := by
  rw [at?] at other
  split at other
  · exact absurd rfl other
  · rename_i outside
    rw [Bool.or_eq_true, not_or] at outside
    exact ⟨Bool.eq_false_iff.mpr outside.1, fun same => outside.2 (beq_iff_eq.mpr same)⟩

theorem at_put (tree : FileTree) (place here : List Text) (entry : Entry) (other : tree.at? place ≠ some .directory) :
    (tree.put place entry).at? here = if here = place then some entry else tree.at? here := by
  obtain ⟨inside, notRoot⟩ := other_inside tree place other
  rw [at?, at?, put]
  by_cases same : here = place
  · subst here
    have known : ¬ ((isAbove place || place == root) = true) := by simp [inside, notRoot]
    rw [if_neg known, put_entries_lookup, if_pos rfl, if_pos rfl]
  · rw [put_entries_lookup, if_neg same, if_neg same]

theorem put_put (tree : FileTree) (place : List Text) (first second : Entry) :
    (tree.put place first).put place second = tree.put place second := by
  have entries (list : List (List Text × Entry)) :
      put.go place second (put.go place first list) = put.go place second list := by
    induction list with
    | nil => simp [put.go]
    | cons head rest ih =>
        obtain ⟨name, old⟩ := head
        by_cases same : (name == place) = true
        · rw [put.go, put.go, if_pos same, if_pos same, put.go, if_pos (beq_self_eq_true place)]
        · rw [put.go, put.go, if_neg same, if_neg same, put.go, if_neg same, ih]
  exact congrArg FileTree.mk (entries tree.entries)

theorem put_found (tree : FileTree) (place : List Text) (entry : Entry) (found : tree.at? place = some entry)
    (other : tree.at? place ≠ some .directory) : tree.put place entry = tree := by
  obtain ⟨inside, notRoot⟩ := other_inside tree place other
  have listed : tree.entries.lookup place = some entry := by
    rw [at?, if_neg (by simp [inside, notRoot])] at found
    exact found
  have entries (list : List (List Text × Entry)) (stored : list.lookup place = some entry) :
      put.go place entry list = list := by
    induction list with
    | nil => cases stored
    | cons head rest ih =>
        obtain ⟨name, old⟩ := head
        rw [List.lookup_cons] at stored
        by_cases same : name = place
        · subst same
          rw [beq_self_eq_true] at stored
          cases stored
          rw [put.go, if_pos (beq_self_eq_true name)]
        · rw [beq_false_of_ne (Ne.symm same)] at stored
          rw [put.go, if_neg (by simpa using same), ih stored]
  exact congrArg FileTree.mk (entries tree.entries listed)

-- A walk that arrives goes through directories only, so what is put in no directory's place is not in its way.
theorem walk_put (tree : FileTree) (place here last : List Text) (entry : Entry) (names : List Text)
    (other : tree.at? place ≠ some .directory) (arrives : tree.walk here names = .ok last) :
    (tree.put place entry).walk here names = .ok last := by
  induction names generalizing here with
  | nil => exact arrives
  | cons name rest ih =>
      rw [walk] at arrives ⊢
      cases found : tree.at? here with
      | none =>
          rw [found] at arrives
          cases arrives
      | some stored =>
          rw [found] at arrives
          cases stored with
          | file bytes executable => cases arrives
          | directory =>
              have different : here ≠ place := by
                rintro rfl
                exact other found
              rw [at_put tree place here entry other, if_neg different, found]
              dsimp only at arrives ⊢
              split at arrives
              · rename_i up
                rw [if_pos up]
                exact ih _ arrives
              · rename_i down
                rw [if_neg down]
                split at arrives
                · cases arrives
                · rename_i short
                  rw [if_neg short]
                  exact ih _ arrives

theorem follow_put (tree : FileTree) (place here last : List Text) (entry : Entry) (path : Path)
    (other : tree.at? place ≠ some .directory) (arrives : tree.follow here path = .ok last) :
    (tree.put place entry).follow here path = .ok last := by
  rw [follow] at arrives ⊢
  split at arrives
  · cases arrives
  · rename_i short
    rw [if_neg short]
    exact walk_put tree place _ last entry path.parts other arrives

theorem resolve_put (tree : FileTree) (place last : List Text) (entry : Entry) (path : Path)
    (other : tree.at? place ≠ some .directory) (arrives : tree.resolve path = .ok last) :
    (tree.put place entry).resolve path = .ok last := by
  rw [resolve] at arrives ⊢
  split at arrives
  · cases arrives
  · split at arrives
    · cases arrives
    · rename_i plain
      rw [if_neg plain]
      cases followed : tree.follow [] path with
      | error error =>
          rw [followed] at arrives
          cases arrives
      | ok found =>
          rw [followed] at arrives
          cases arrives
          rw [follow_put tree place [] last entry path other followed]
          rfl

theorem read_resolved (tree : FileTree) (path : Path) (place : List Text) (resolved : tree.resolve path = .ok place) :
    tree.read path = match tree.at? place with
      | some (.file bytes _) => .ok bytes
      | some .directory => .error (.system .isDirectory path.text)
      | none => .error (.system .notFound path.text) := by
  rw [FileTree.read, find, resolved]
  simp only [bind, Except.bind]
  cases tree.at? place with
  | none => rfl
  | some entry => cases entry <;> rfl

theorem read_ok_iff (tree : FileTree) (path : Path) (bytes : List UInt8) :
    tree.read path = .ok bytes ↔
      ∃ place executable, tree.resolve path = .ok place ∧ tree.at? place = some (.file bytes executable) := by
  cases resolved : tree.resolve path with
  | error fault =>
      rw [FileTree.read, find, resolved]
      constructor
      · intro read
        cases read
      · rintro ⟨_, _, same, _⟩
        cases same
  | ok place =>
      rw [read_resolved tree path place resolved]
      constructor
      · intro read
        split at read
        · rename_i stored executable file
          cases read
          exact ⟨place, executable, rfl, file⟩
        · cases read
        · cases read
      · rintro ⟨_, executable, same, file⟩
        cases same
        rw [file]

theorem resolve_named (tree : FileTree) (path : Path) (fault : Fault) (named : path.IsNamed)
    (refused : tree.resolve path = .error fault) : ∃ error, fault = .system error path.text := by
  have encoded := (Utf8.first_unencodable_iff Utf8.standsForByte 0 path.text.toList).mpr named.letters
  rw [resolve, Utf8.encodeName?, encoded] at refused
  dsimp only at refused
  rw [if_neg (by simp [named.noNull])] at refused
  cases followed : tree.follow [] path with
  | ok place =>
      rw [followed] at refused
      cases refused
  | error error =>
      rw [followed] at refused
      exact ⟨error, (Except.error.inj refused).symm⟩

theorem resolve_unnamed (tree : FileTree) (path : Path) (unnamed : ¬ path.IsNamed) :
    ∃ fault, tree.resolve path = .error fault ∧ (fault = .nullByte ∨ ∃ cause, fault = .encoding cause) := by
  rw [resolve, Utf8.encodeName?]
  cases found : Utf8.firstUnencodable? Utf8.standsForByte 0 path.text.toList with
  | some cause => exact ⟨.encoding cause, rfl, .inr ⟨cause, rfl⟩⟩
  | none =>
      have letters := (Utf8.first_unencodable_iff Utf8.standsForByte 0 path.text.toList).mp found
      have holdsNull : path.holdsNull = true := by
        apply Bool.of_not_eq_false
        intro noNull
        exact unnamed ⟨letters, noNull⟩
      dsimp only
      rw [if_pos holdsNull]
      exact ⟨.nullByte, rfl, .inl rfl⟩

theorem read_named (tree : FileTree) (path : Path) (fault : Fault) (named : path.IsNamed)
    (refused : tree.read path = .error fault) : ∃ error, fault = .system error path.text := by
  cases resolved : tree.resolve path with
  | error other =>
      rw [FileTree.read, find, resolved] at refused
      obtain rfl : other = fault := Except.error.inj refused
      exact resolve_named tree path other named resolved
  | ok place =>
      rw [read_resolved tree path place resolved] at refused
      split at refused <;> cases refused
      · exact ⟨.isDirectory, rfl⟩
      · exact ⟨.notFound, rfl⟩

theorem read_unnamed (tree : FileTree) (path : Path) (unnamed : ¬ path.IsNamed) :
    ∃ fault, tree.read path = .error fault ∧ (fault = .nullByte ∨ ∃ cause, fault = .encoding cause) := by
  obtain ⟨fault, refused, kind⟩ := resolve_unnamed tree path unnamed
  refine ⟨fault, ?_, kind⟩
  rw [FileTree.read, find, refused]
  rfl

theorem written_read (tree after : FileTree) (path : Path) (bytes : List UInt8)
    (written : tree.write path bytes = .ok after) : after.read path = .ok bytes := by
  rw [write] at written
  cases resolved : tree.resolve path with
  | error fault =>
      rw [resolved] at written
      cases written
  | ok place =>
      have readBack (executable : Bool) (other : tree.at? place ≠ some .directory) :
          (tree.put place (.file bytes executable)).read path = .ok bytes := by
        refine (read_ok_iff _ path bytes).mpr ⟨place, executable, resolve_put tree place place _ path other resolved, ?_⟩
        rw [at_put tree place place _ other, if_pos rfl]
      rw [resolved] at written
      simp only [bind, Except.bind] at written
      split at written
      · cases written
      · rename_i stored executable file
        cases written
        exact readBack executable (by simp [file])
      · rename_i nothing
        cases written
        exact readBack false (by simp [nothing])

theorem write_found (tree : FileTree) (path : Path) (place : List Text) (old bytes : List UInt8) (executable : Bool)
    (resolved : tree.resolve path = .ok place) (file : tree.at? place = some (.file old executable)) :
    tree.write path bytes = .ok (tree.put place (.file bytes executable)) := by
  rw [write, resolved]
  simp only [bind, Except.bind, file]
  rfl

theorem write_file (tree : FileTree) (path : Path) (old bytes : List UInt8) (read : tree.read path = .ok old) :
    ∃ after, tree.write path bytes = .ok after ∧ after.read path = .ok bytes := by
  obtain ⟨place, executable, resolved, file⟩ := (read_ok_iff tree path old).mp read
  have written := write_found tree path place old bytes executable resolved file
  exact ⟨_, written, written_read tree _ path bytes written⟩

end FileTree

namespace Disk

def canRead (disk : Disk) (path : Path) : Bool := !disk.unreadable.contains path

def canWrite (disk : Disk) (path : Path) : Bool := !disk.unwritable.contains path

theorem read_ok_iff (disk : Disk) (path : Path) (bytes : List UInt8) :
    disk.read path = .ok bytes ↔ disk.canRead path = true ∧ disk.tree.read path = .ok bytes := by
  rw [Disk.read, canRead]
  cases disk.unreadable.contains path <;> simp

theorem write_file (disk : Disk) (path : Path) (old bytes : List UInt8) (read : disk.tree.read path = .ok old) :
    (disk.canWrite path = true ∧ ∃ after, disk.write path bytes = .ok after ∧ after.tree.read path = .ok bytes) ∨
      (disk.canWrite path = false ∧ ∃ fault, disk.write path bytes = .error fault) := by
  rw [Disk.write, canWrite]
  cases disk.unwritable.contains path with
  | true => exact .inr ⟨rfl, _, rfl⟩
  | false =>
      obtain ⟨after, written, readBack⟩ := FileTree.write_file disk.tree path old bytes read
      refine .inl ⟨rfl, { disk with tree := after }, ?_, readBack⟩
      rw [written]
      rfl

theorem read_allowed (disk : Disk) (path : Path) (readable : disk.canRead path = true) :
    disk.read path = disk.tree.read path := by
  rw [canRead, Bool.not_eq_true'] at readable
  rw [Disk.read, readable, if_neg Bool.false_ne_true]

theorem write_allowed (disk : Disk) (path : Path) (bytes : List UInt8) (writable : disk.canWrite path = true) :
    disk.write path bytes = (disk.tree.write path bytes).map fun tree => { disk with tree := tree } := by
  rw [canWrite, Bool.not_eq_true'] at writable
  rw [Disk.write, writable, if_neg Bool.false_ne_true]

theorem write_forbidden (disk : Disk) (path : Path) (bytes : List UInt8) (unwritable : disk.canWrite path = false) :
    disk.write path bytes = .error (.system .permission path.text) := by
  rw [canWrite, Bool.not_eq_false'] at unwritable
  rw [Disk.write, if_pos unwritable]

theorem write_permissions (disk after : Disk) (path : Path) (bytes : List UInt8)
    (written : disk.write path bytes = .ok after) :
    after.unreadable = disk.unreadable ∧ after.unwritable = disk.unwritable := by
  rw [Disk.write] at written
  split at written
  · cases written
  · cases made : disk.tree.write path bytes with
    | error fault => simp [made, Except.map] at written
    | ok tree =>
        rw [made] at written
        cases written
        exact ⟨rfl, rfl⟩

end Disk

end ConstantSweep

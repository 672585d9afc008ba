import ConstantSweep.Proofs.Adherence
import ConstantSweep.Proofs.Patch
import ConstantSweep.Sweep.Rehearsed
import ConstantSweep.Sweep.Scripted

set_option autoImplicit false

namespace ConstantSweep.Sweep

theorem stage_patches : Stage.bench.PatchesOn Stage.disk lineTest where
  made call before := patch_disk_made call before.disk
  refused call before := patch_disk_refused call before.disk

theorem stage_keeps_permissions (unreadable unwritable : List Path) :
    Stage.bench.Keeps fun stage => stage.disk.unreadable = unreadable ∧ stage.disk.unwritable = unwritable where
  patch call stage := by
    rintro ⟨readable, writable⟩
    obtain ⟨sameRead, sameWrite⟩ := patch_disk_permissions call stage.disk
    exact ⟨sameRead.trans readable, sameWrite.trans writable⟩
  spawn step stage := by
    intro permissions
    change (Stage.spawn step stage).state.disk.unreadable = _ ∧ (Stage.spawn step stage).state.disk.unwritable = _
    unfold Stage.spawn
    dsimp only
    split <;> exact permissions

-- The target may be read and written whenever a call begins, or never.
def Request.Steady {σ : Type} (request : Request) (view : σ → Disk) (start : σ) (calls : List (Call σ)) : Prop :=
  ∀ call ∈ calls, (view call.before).canRead request.config.target = (view start).canRead request.config.target ∧
    (view call.before).canWrite request.config.target = (view start).canWrite request.config.target

theorem kept_permissions_steady {σ : Type} (view : σ → Disk) (runner : Runner σ) (request : Request)
    (workplace : Workplace σ)
    (keeps : ∀ unreadable unwritable,
      runner.bench.Keeps fun state => (view state).unreadable = unreadable ∧ (view state).unwritable = unwritable) :
    request.Steady view workplace.bench (runner.calls request workplace) := by
  intro call made
  have course := run_course runner request workplace
  obtain ⟨readable, writable⟩ := (run_keeps (keeps _ _) _ _ course ⟨rfl, rfl⟩).2 call made
  rw [Disk.canRead, Disk.canRead, Disk.canWrite, Disk.canWrite, readable, writable]
  exact ⟨rfl, rfl⟩

def Script.IsStill (script : Script) : Prop :=
  script.otherwise.writes = [] ∧ ∀ entry ∈ script.cues, ∀ cue ∈ entry.2, cue.writes = []

theorem lookup_member (cues : List (Text × List Cue)) (key : Text) (ready : List Cue)
    (found : cues.lookup key = some ready) : (key, ready) ∈ cues := by
  obtain ⟨before, after, same, _⟩ := List.lookup_eq_some_iff.mp found
  rw [same]
  exact List.mem_append_right _ (List.mem_cons_self ..)

theorem advance_still (cues : List (Text × List Cue)) (key : Text)
    (still : ∀ entry ∈ cues, ∀ cue ∈ entry.2, cue.writes = []) :
    ∀ entry ∈ Script.advance cues key, ∀ cue ∈ entry.2, cue.writes = [] := by
  intro entry member cue used
  obtain ⟨old, listed, same⟩ := List.mem_map.mp member
  refine still old listed cue ?_
  split at same
  · split at same
    · subst same
      exact List.mem_cons_of_mem _ used
    · subst same
      exact used
  · subst same
    exact used

theorem next_still (script : Script) (command : List Text) (still : script.IsStill) :
    (script.next command).1.writes = [] ∧ (script.next command).2.IsStill := by
  unfold Script.next
  dsimp only
  split
  · rename_i cue rest found
    have listed := lookup_member script.cues _ _ found
    exact ⟨still.2 _ listed cue (List.mem_cons_self ..), still.1, advance_still script.cues _ still.2⟩
  · exact ⟨still.1, still⟩

theorem stage_keeps_still : Stage.bench.Keeps fun stage => stage.script.IsStill where
  patch call stage := id
  spawn step stage := by
    intro still
    change (Stage.spawn step stage).state.script.IsStill
    unfold Stage.spawn
    dsimp only
    split <;> exact (next_still stage.script step.command still).2

theorem still_spawn (step : Step) (stage : Stage) (still : stage.script.IsStill) :
    (Stage.spawn step stage).state.disk = stage.disk := by
  have writes := (next_still stage.script step.command still).1
  unfold Stage.spawn
  dsimp only
  rw [writes]
  split <;> rfl

namespace Sample

-- One file of one line, one value, and commands that follow a cue each.
def config : SweepConfig := ⟨[2], Path.ofText "c.txt", "X", .text "X={v}"⟩

def measured : Measured := ⟨0, .ofInt 0, none, "", "", none⟩

def silent : Cue := ⟨[], none, none, none, measured⟩

def stirred : Cue := { silent with signal := some 15 }

def failing : Cue := { silent with measured := { measured with exitCode := 1 } }

def spoiling : Cue := { silent with writes := [(Path.ofText "c.txt", .file [10] false)] }

def disk : Disk := ⟨⟨[(["c.txt"], .file [88, 61, 49, 10] false)]⟩, [], []⟩

def workplace (cue : Cue) : Workplace Stage :=
  ⟨⟨disk, ⟨[], cue⟩⟩, Signal.Forwarder.idle [2, 15] fun _ => .initial 0, none⟩

def runner : Runner Stage := ⟨Stage.bench, .failFast, false, false⟩

def request (restore : Bool) : Request := ⟨config, fun _ => .ok [⟨["a"], none, [], .null⟩], [], restore, false⟩

end Sample

end ConstantSweep.Sweep

import ConstantSweep.Proofs.Target

set_option autoImplicit false

namespace ConstantSweep.Sweep

open ConstantSweep.Text

section Restoration

variable {σ : Type} {view : σ → Disk} {tests : Text → Except Regex.Fault (List Letter → Bool)} {request : Request}
  {bench : Bench σ} {catches : Int → Bool} {policy : Policy} {calls : List (Call σ)} {start last : Standing σ}
  {halt : Option Halt}

theorem found_permissions (patches : bench.PatchesOn view tests)
    (course : SweepCourse bench catches policy request start calls last halt) (line : Text)
    (found : firstPrevious calls = some line) :
    ∃ call ∈ calls, (view call.before).canRead request.config.target = true ∧
      (view call.before).canWrite request.config.target = true := by
  obtain ⟨call, made, previous⟩ := List.exists_of_findSome?_eq_some found
  have placed := sweep_placed course call made
  cases call with
  | spawn done => cases previous
  | patch done =>
      obtain ⟨⟨value, written, _, same, _⟩, answered⟩ := placed
      rw [Call.previous?] at previous
      split at previous
      · rename_i answer
        rw [answered] at answer
        obtain ⟨_, _, _, _, readable, writable, _⟩ := bench.patches_ok patches done.call done.before _ answer
        rw [same] at readable writable
        exact ⟨.patch done, made, readable, writable⟩
      · cases previous

theorem restored_target (patches : bench.PatchesOn view tests) (fits : request.Fits tests) (final : σ) (ending : Ending)
    (course : RunCourse bench catches policy request start calls final ending)
    (leave : LeaveTarget view request bench calls) (steady : request.Steady view start.bench calls)
    (restore : request.restore = true) : request.target view final = request.target view start.bench := by
  cases course with
  | told ending dry unfailing => rfl
  | swept calls last halt real swept unrestored =>
      obtain ⟨held, _⟩ := sweep_target patches fits swept leave
      rw [unrestored restore] at held
      cases latest : lastApplied calls with
      | none =>
          rw [latest] at held
          exact held
      | some value =>
          rw [latest] at held
          cases held
  | restored early last halt line turn real swept _ found =>
      obtain ⟨leaveHere, _⟩ := (leave_target_append early _).mp leave
      obtain ⟨held, _⟩ := sweep_target patches fits swept leaveHere
      rw [found] at held
      cases latest : lastApplied early with
      | none =>
          rw [latest] at held
          cases held
      | some value =>
          rw [latest] at held
          obtain ⟨listed, test, text, old, new, compiled, rendered, began, current, rewrites⟩ := held
          obtain ⟨isBody, hits⟩ := fits value listed text rendered
          have back := rewrites_back test _ _ old new rewrites isBody (hits test compiled)
          obtain ⟨call, made, readable, writable⟩ := found_permissions patches swept line found
          obtain ⟨sameRead, sameWrite⟩ := steady call (List.mem_append_left _ made)
          obtain ⟨sameReadNow, sameWriteNow⟩ := steady _ (List.mem_append_right early (List.mem_singleton_self _))
          exact (bench.patches_made patches (request.patchCall none line) last.bench test text.toList new old compiled
            (sameReadNow.trans (sameRead.symm.trans readable)) (sameWriteNow.trans (sameWrite.symm.trans writable))
            current back).trans began.symm

end Restoration

theorem restore_brings_target_back {σ : Type} (runner : Runner σ) (request : Request) (workplace : Workplace σ)
    (view : σ → Disk) (tests : Text → Except Regex.Fault (List Letter → Bool))
    (patches : runner.bench.PatchesOn view tests) (fits : request.Fits tests)
    (leave : LeaveTarget view request runner.bench (runner.calls request workplace))
    (steady : request.Steady view workplace.bench (runner.calls request workplace)) (restore : request.restore = true) :
    request.target view (runner.run request workplace).workplace.bench = request.target view workplace.bench := by
  have back := restored_target patches fits _ _ (run_course runner request workplace) leave steady restore
  exact back

theorem restore_brings_target_back_once :
    (Sample.runner.calls (Sample.request true) (Sample.workplace Sample.silent)).length = 3 ∧
    (Sample.request true).target Stage.disk
      (Sample.runner.run (Sample.request true) (Sample.workplace Sample.silent)).workplace.bench = .ok [88, 61, 49, 10] := by
  have still : (Sample.workplace Sample.silent).bench.script.IsStill := ⟨rfl, List.forall_mem_nil _⟩
  refine ⟨by decide +kernel, ?_⟩
  exact restore_brings_target_back Sample.runner (Sample.request true) (Sample.workplace Sample.silent) Stage.disk lineTest
    stage_patches (sample_fits true) (stage_leaves_target _ _ _ rfl still)
    (kept_permissions_steady Stage.disk _ _ _ stage_keeps_permissions) rfl

end ConstantSweep.Sweep

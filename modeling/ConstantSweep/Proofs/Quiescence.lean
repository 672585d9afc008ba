import ConstantSweep.Proofs.Interruption

set_option autoImplicit false

namespace ConstantSweep.Sweep

open ConstantSweep.Signal

def Subsides {σ : Type} (catches : Int → Bool) (calls : List (Call σ)) : Prop :=
  ∀ before call after, calls = before ++ call :: after → call.stirs catches = true → after = []

section Subsiding

variable {σ : Type} {bench : Bench σ} {catches : Int → Bool} {turn : Nat} {value : Option Int} {index : Int}
  {calls : List (Call σ)} {start last : Standing σ} {halt : Option Halt} {policy : Policy} {request : Request}

theorem subsides_nil : Subsides catches ([] : List (Call σ)) := by
  intro before call after split
  exact absurd split.symm (List.append_ne_nil_of_right_ne_nil _ (List.cons_ne_nil _ _))

theorem subsides_singleton (only : Call σ) : Subsides catches [only] := by
  intro before call after split _
  have length := congrArg List.length split
  rw [List.length_singleton, List.length_append, List.length_cons] at length
  exact List.eq_nil_of_length_eq_zero (by omega)

theorem subsides_append (first second : List (Call σ)) (early : Subsides catches first)
    (late : Subsides catches second) (silent : ∀ call ∈ first, call.stirs catches = true → second = []) :
    Subsides catches (first ++ second) := by
  intro before call after split stirs
  rcases List.append_eq_append_iff.mp split with ⟨between, _, there⟩ | ⟨between, here, rest⟩
  · exact late between call after there stirs
  · cases between with
    | nil => exact late [] call after rest.symm stirs
    | cons other tail =>
        obtain ⟨rfl, following⟩ := List.cons.inj rest
        have nothing : tail = [] := early before call tail here stirs
        have made : call ∈ first := here ▸ List.mem_append_right before (List.mem_cons_self ..)
        rw [following, nothing]
        exact silent call made stirs

theorem step_subsides (step : Step) (course : StepCourse bench catches turn value index step start calls last halt) :
    Subsides catches calls := by
  rcases step_calls step course with ⟨rfl, _⟩ | ⟨rfl, _⟩
  · exact subsides_nil
  · exact subsides_singleton _

theorem steps_subside (steps : List Step)
    (course : StepsCourse bench catches turn value index steps start calls last halt) : Subsides catches calls := by
  induction course with
  | done index start => exact subsides_nil
  | halted index step rest start calls last halt first => exact step_subsides step first
  | next index step rest start calls later middle last halt first ran ih =>
      refine subsides_append calls later (step_subsides step first) ih ?_
      intro call made stirs
      cases first with
      | passed measured quiet told zero =>
          obtain rfl := List.mem_singleton.mp made
          exact (steps_flagged rest (spawn_heard step start.bench _ stirs told (by simp)) ran).1

theorem patched_subsides (taken : Int)
    (course : PatchedCourse bench catches policy request turn taken start calls last halt) : Subsides catches calls := by
  cases course with
  | noticed signal flag => exact subsides_nil
  | stepless fault quiet factory => exact subsides_nil
  | ran steps calls last halt quiet factory ran => exact steps_subside steps ran

theorem value_subsides (taken : Int)
    (course : ValueCourse bench catches policy request turn taken start calls last halt) : Subsides catches calls := by
  cases course with
  | unrendered fault rendered => exact subsides_nil
  | crashed line fault rendered answer => exact subsides_singleton _
  | unpatched line failure rendered answer => exact subsides_singleton _
  | patched line previous later last halt rendered answer patched =>
      refine subsides_append [_] later (subsides_singleton _) (patched_subsides taken patched) ?_
      intro call made stirs
      obtain rfl := List.mem_singleton.mp made
      exact (patched_flagged taken (patch_heard _ stirs) patched).1

theorem values_subside (values : List Int)
    (course : ValuesCourse bench catches policy request turn values start calls last halt) : Subsides catches calls := by
  induction course with
  | done turn start => exact subsides_nil
  | noticed turn value rest start signal flag => exact subsides_nil
  | halted turn value rest start calls last halt quiet ran => exact value_subsides value ran
  | next turn value rest start calls later middle last halt quiet ran ranOn ih =>
      refine subsides_append calls later (value_subsides value ran) ih ?_
      intro call made stirs
      have heard := value_heard value ran call made stirs
      exact (values_flagged rest (heard.flag heard.checked.symm) ranOn).1

theorem sweep_subsides (course : SweepCourse bench catches policy request start calls last halt) :
    Subsides catches calls := by
  cases course with
  | halted calls last halt setup => exact steps_subside request.setup setup
  | prepared early later middle last halt setup values =>
      have counted := steps_counted request none request.setup rfl
      refine subsides_append early later (steps_subside request.setup setup)
        (values_subside request.config.values values) ?_
      intro call made stirs
      have heard := steps_heard policy request.setup counted setup call made stirs
      exact (values_flagged request.config.values (heard.flag heard.checked.symm) values).1

-- What is left of a run: nothing, or the patch that puts back the line that the first successful patch found.
def OnlyRestores (request : Request) (before after : List (Call σ)) : Prop :=
  after = [] ∨ ∃ line done, request.restore = true ∧ firstPrevious before = some line ∧
    after = [Call.patch done] ∧ done.call = request.patchCall none line

theorem run_subsides (final : σ) (ending : Ending)
    (course : RunCourse bench catches policy request start calls final ending) (before after : List (Call σ))
    (call : Call σ) (made : calls = before ++ call :: after) (stirs : call.stirs catches = true) :
    OnlyRestores request (before ++ [call]) after := by
  cases course with
  | told ending dry unfailing => exact .inl (subsides_nil before call after made stirs)
  | swept calls last halt real swept unrestored => exact .inl (sweep_subsides swept before call after made stirs)
  | restored early last halt line turn real swept restore found =>
      rcases concat_split early before after _ call made with ⟨_, _, nothing⟩ | ⟨rest, only, within⟩
      · exact .inl nothing
      · have nothing : rest = [] := sweep_subsides swept before call rest within stirs
        rw [nothing] at within only
        rw [only, ← within]
        exact .inr ⟨line, _, restore, found, rfl, rfl⟩

end Subsiding

-- A signal that is caught during a call is the end of all calls, but for the patch that puts the first line back.
theorem no_call_follows_signal {σ : Type} (runner : Runner σ) (request : Request) (workplace : Workplace σ)
    (before after : List (Call σ)) (call : Call σ)
    (made : runner.calls request workplace = before ++ call :: after)
    (heard : call.hears workplace.forwarder.enter.catches = true) :
    OnlyRestores request (before ++ [call]) after :=
  run_subsides _ _ (run_course runner request workplace) before after call made ((stirs_iff _ call).mpr (.inl heard))

theorem no_call_follows_signal_once :
    ∃ before call after, Sample.runner.calls (Sample.request true) (Sample.workplace Sample.stirred) =
        before ++ call :: after ∧
      call.hears (Sample.workplace Sample.stirred).forwarder.enter.catches = true ∧ after.length = 1 ∧
      OnlyRestores (Sample.request true) (before ++ [call]) after := by
  have heard : ((Sample.runner.calls (Sample.request true) (Sample.workplace Sample.stirred))[1]?).any
      (Call.hears (Sample.workplace Sample.stirred).forwarder.enter.catches) = true := by
    decide +kernel
  have left : ((Sample.runner.calls (Sample.request true) (Sample.workplace Sample.stirred)).drop 2).length = 1 := by
    decide +kernel
  cases found : (Sample.runner.calls (Sample.request true) (Sample.workplace Sample.stirred))[1]? with
  | none =>
      rw [found] at heard
      cases heard
  | some call =>
      rw [found, Option.any_some] at heard
      obtain ⟨inside, same⟩ := List.getElem?_eq_some_iff.mp found
      have split := List.take_append_drop 1 (Sample.runner.calls (Sample.request true) (Sample.workplace Sample.stirred))
      rw [List.drop_eq_getElem_cons inside, same] at split
      exact ⟨_, call, _, split.symm, heard, left, no_call_follows_signal Sample.runner (Sample.request true)
        (Sample.workplace Sample.stirred) _ _ call split.symm heard⟩

end ConstantSweep.Sweep

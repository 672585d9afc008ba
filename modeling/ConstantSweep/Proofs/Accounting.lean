import ConstantSweep.Proofs.Benches

set_option autoImplicit false

namespace ConstantSweep.Sweep

-- The error is that of the patch that should have put the first line back.
def RestoreFailed {σ : Type} (calls : List (Call σ)) (error : SweepError) : Prop :=
  ∃ done failure, Call.patch done ∈ calls ∧ done.call.value = none ∧ done.answer = .error (.failure failure) ∧
    error = ⟨.patch failure, none, none⟩

-- The results of all processes that ended, the failures kept so far and the error itself.
def Accounts {σ : Type} (policy : Policy) (calls : List (Call σ)) (error : SweepError) (outcome : Outcome) : Prop :=
  outcome.results = resultsOf calls ∧ outcome.failures = recordedBy policy calls ++ [.ofError error]

-- What a run that has not crashed tells of its results and failures.
def Ending.account? : Ending → Option Outcome
  | .completed outcome => some outcome
  | .failed _ outcome => some outcome
  | .crashed _ => none

def Ending.outcome? : Ending → Option Outcome
  | .failed _ outcome => some outcome
  | _ => none

def Spares (halt : Option Halt) : Prop := ∀ failure, halt ≠ some (.error ⟨.patch failure, none, none⟩)

theorem spares_none : Spares none := by
  intro failure same
  cases same

theorem spares_fault (fault : Fault) : Spares (some (.fault fault)) := by
  intro failure same
  cases same

theorem spares_of_cause (error : SweepError) (other : ∀ failure, error.cause ≠ .patch failure) :
    Spares (some (.error error)) := by
  intro failure same
  cases same
  exact other failure rfl

theorem spares_interrupted (signal : Int) (value step : Option Int) :
    Spares (some (.error (.interrupted signal value step))) := by
  apply spares_of_cause
  intro failure same
  cases same

theorem spares_valued (cause : Cause) (value : Int) (step : Option Int) :
    Spares (some (.error ⟨cause, some value, step⟩)) := by
  intro failure same
  cases same

theorem settle_spares (policy : Policy) (halt : Option Halt) (spares : Spares halt) : Spares (policy.settle halt) := by
  cases halt with
  | none => exact spares
  | some halt =>
      cases halt with
      | fault fault => exact spares
      | error error =>
          rw [Policy.settle]
          split
          · cases policy with
            | failFast => exact spares
            | goOn => exact spares_none
          · exact spares

section Courses

variable {σ : Type} {bench : Bench σ} {catches : Int → Bool} {turn : Nat} {value : Option Int} {index : Int}
  {calls : List (Call σ)} {start last : Standing σ} {halt : Option Halt} {policy : Policy} {request : Request}

theorem step_spares (step : Step) (course : StepCourse bench catches turn value index step start calls last halt) :
    Spares halt := by
  cases course with
  | noticed signal flag => exact spares_interrupted _ _ _
  | nameless fault quiet named => exact spares_fault fault
  | stopped stop quiet told =>
      cases stop with
      | failure cause =>
          apply spares_of_cause
          intro failure same
          cases same
      | interrupt signal =>
          apply spares_of_cause
          intro failure same
          cases same
      | fault fault => exact spares_fault fault
  | failed measured quiet told bad =>
      apply spares_of_cause
      intro failure same
      cases same
  | passed measured quiet told zero => exact spares_none

theorem steps_spares (steps : List Step)
    (course : StepsCourse bench catches turn value index steps start calls last halt) : Spares halt := by
  induction course with
  | done index start => exact spares_none
  | halted index step rest start calls last halt first => exact step_spares step first
  | next index step rest start calls later middle last halt first _ ih => exact ih

theorem value_spares (taken : Int) (course : ValueCourse bench catches policy request turn taken start calls last halt) :
    Spares halt := by
  cases course with
  | unrendered fault rendered => exact spares_fault fault
  | crashed line fault rendered answer => exact spares_fault fault
  | unpatched line cause rendered answer =>
      cases policy with
      | failFast => exact spares_valued _ _ _
      | goOn => exact spares_none
  | patched line previous later last halt rendered answer patched =>
      cases patched with
      | noticed signal flag => exact spares_interrupted _ _ _
      | stepless fault quiet factory => exact spares_fault fault
      | ran steps calls last halt quiet factory ran => exact settle_spares policy halt (steps_spares steps ran)

theorem values_spares (values : List Int)
    (course : ValuesCourse bench catches policy request turn values start calls last halt) : Spares halt := by
  induction course with
  | done turn start => exact spares_none
  | noticed turn value rest start signal flag => exact spares_interrupted _ _ _
  | halted turn value rest start calls last halt quiet ran => exact value_spares value ran
  | next turn value rest start calls later middle last halt quiet ran _ ih => exact ih

theorem sweep_spares (course : SweepCourse bench catches policy request start calls last halt) : Spares halt := by
  cases course with
  | halted calls last halt setup => exact steps_spares request.setup setup
  | prepared early later middle last halt setup values => exact values_spares request.config.values values

theorem restore_accounts (error : SweepError) (outcome : Outcome) (done : PatchDone σ)
    (valueless : done.call.value = none) :
    Accounts policy (calls ++ [.patch done]) error outcome ↔ Accounts policy calls error outcome := by
  have unrecorded : Call.failure? (.patch done) = none := by
    rw [Call.failure?, valueless]
  have results : resultsOf [Call.patch done] = [] := rfl
  have failures : recordedBy policy [.patch done] = [] := by
    rw [recordedBy, List.filterMap_cons_none unrecorded, List.filterMap_nil, keep_nil]
  rw [Accounts, Accounts, results_append, recorded_append, results, failures, List.append_nil, List.append_nil]

theorem halt_accounts (error : SweepError) (outcome : Outcome)
    (ended : Ending.ofHalt ⟨resultsOf calls, recordedBy policy calls⟩ halt = .failed error outcome) :
    Accounts policy calls error outcome ∧ halt = some (.error error) := by
  cases halt with
  | none => cases ended
  | some halt =>
      cases halt with
      | fault fault => cases ended
      | error cause =>
          cases ended
          exact ⟨⟨rfl, rfl⟩, rfl⟩

theorem spared_failure (error : SweepError) (spares : Spares (some (.error error))) : ¬ RestoreFailed calls error := by
  rintro ⟨done, failure, _, _, _, same⟩
  exact spares failure (congrArg (fun error => some (Halt.error error)) same)

theorem empty_accounts (error : SweepError) : ¬ Accounts policy calls error .empty := by
  rintro ⟨_, failures⟩
  exact absurd failures.symm (List.append_ne_nil_of_right_ne_nil _ (List.cons_ne_nil _ _))

theorem restored_failed (ending : Ending) (answer : Except PatchStop Text) (error : SweepError) (outcome : Outcome)
    (raised : ending.restored answer = .failed error outcome) :
    ending = .failed error outcome ∨
      (outcome = .empty ∧ ∃ failure, answer = .error (.failure failure) ∧ error = ⟨.patch failure, none, none⟩) := by
  cases answer with
  | ok found => exact .inl raised
  | error stop =>
      cases stop with
      | fault fault => cases raised
      | failure failure =>
          cases ending with
          | completed kept =>
              cases raised
              exact .inr ⟨rfl, failure, rfl, rfl⟩
          | failed cause kept => exact .inl raised
          | crashed fault => exact .inl raised

theorem run_failed (final : σ) (ending : Ending) (error : SweepError) (outcome : Outcome)
    (course : RunCourse bench catches policy request start calls final ending)
    (raised : ending = .failed error outcome) :
    (Accounts policy calls error outcome ∧ ¬ RestoreFailed calls error) ∨
      (outcome = .empty ∧ RestoreFailed calls error) := by
  cases course with
  | told ending dry unfailing => exact absurd raised (unfailing error outcome)
  | swept calls last halt real swept unrestored =>
      obtain ⟨accounts, same⟩ := halt_accounts error outcome raised
      rw [same] at swept
      exact .inl ⟨accounts, spared_failure error (sweep_spares swept)⟩
  | restored early last halt line turn real swept restore found =>
      rcases restored_failed _ _ error outcome raised with ended | ⟨rfl, failure, answer, rfl⟩
      · obtain ⟨accounts, same⟩ := halt_accounts error outcome ended
        rw [same] at swept
        refine .inl ⟨?_, spared_failure error (sweep_spares swept)⟩
        exact (restore_accounts error outcome (bench.patchDone turn (request.patchCall none line) last.bench) rfl).mpr
          accounts
      · refine .inr ⟨rfl, _, failure, List.mem_append_right _ (List.mem_singleton_self _), rfl, answer, rfl⟩

theorem run_accounts (final : σ) (ending : Ending) (error : SweepError) (outcome : Outcome)
    (course : RunCourse bench catches policy request start calls final ending)
    (raised : ending = .failed error outcome) : Accounts policy calls error outcome ↔ ¬ RestoreFailed calls error := by
  rcases run_failed final ending error outcome course raised with ⟨accounts, spared⟩ | ⟨rfl, failed⟩
  · exact ⟨fun _ => spared, fun _ => accounts⟩
  · exact ⟨fun accounts => absurd accounts (empty_accounts error), fun spared => absurd failed spared⟩

end Courses

-- The error of a run carries the account of the run, unless the run failed only in putting the line back.
theorem error_carries_account_iff {σ : Type} (runner : Runner σ) (request : Request) (workplace : Workplace σ)
    (error : SweepError) (outcome : Outcome) (raised : (runner.run request workplace).ending = .failed error outcome) :
    Accounts runner.policy (runner.calls request workplace) error outcome ↔
      ¬ RestoreFailed (runner.calls request workplace) error :=
  run_accounts _ _ error outcome (run_course runner request workplace) raised

theorem error_carries_account_iff_once :
    ∃ error outcome, (Sample.runner.run (Sample.request true) (Sample.workplace Sample.failing)).ending =
        .failed error outcome ∧ outcome.results.length = 1 ∧
      (Accounts Sample.runner.policy (Sample.runner.calls (Sample.request true) (Sample.workplace Sample.failing)) error
          outcome ↔
        ¬ RestoreFailed (Sample.runner.calls (Sample.request true) (Sample.workplace Sample.failing)) error) := by
  have fails : (Sample.runner.run (Sample.request true) (Sample.workplace Sample.failing)).ending.outcome?.map
      (fun outcome => outcome.results.length) = some 1 := by
    decide +kernel
  cases ended : (Sample.runner.run (Sample.request true) (Sample.workplace Sample.failing)).ending with
  | failed error outcome =>
      rw [ended] at fails
      exact ⟨error, outcome, rfl, Option.some.inj fails,
        error_carries_account_iff Sample.runner (Sample.request true) (Sample.workplace Sample.failing) error outcome ended⟩
  | completed outcome =>
      rw [ended] at fails
      cases fails
  | crashed fault =>
      rw [ended] at fails
      cases fails

-- The command spoils the line, which then cannot be put back, and the result of the command is lost.
theorem restore_error_loses_results :
    ∃ error outcome, (Sample.runner.run (Sample.request true) (Sample.workplace Sample.spoiling)).ending =
        .failed error outcome ∧
      ¬ Accounts Sample.runner.policy (Sample.runner.calls (Sample.request true) (Sample.workplace Sample.spoiling)) error
        outcome := by
  have fails : (Sample.runner.run (Sample.request true) (Sample.workplace Sample.spoiling)).ending.outcome?.map
      (fun outcome => outcome.results.length) = some 0 := by
    decide +kernel
  have kept : (resultsOf (Sample.runner.calls (Sample.request true) (Sample.workplace Sample.spoiling))).length = 1 := by
    decide +kernel
  cases ended : (Sample.runner.run (Sample.request true) (Sample.workplace Sample.spoiling)).ending with
  | failed error outcome =>
      rw [ended] at fails
      refine ⟨error, outcome, rfl, ?_⟩
      rintro ⟨results, _⟩
      have lost : outcome.results.length = 0 := Option.some.inj fails
      rw [← results, lost] at kept
      cases kept
  | completed outcome =>
      rw [ended] at fails
      cases fails
  | crashed fault =>
      rw [ended] at fails
      cases fails

end ConstantSweep.Sweep

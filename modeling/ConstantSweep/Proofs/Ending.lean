import ConstantSweep.Proofs.Completion
import ConstantSweep.Proofs.Policies

set_option autoImplicit false

namespace ConstantSweep.Sweep

open ConstantSweep.Signal

-- The code that an ending stands for: that of its error, or of the first failure that was kept.
def Ending.code : Ending → Nat
  | .completed outcome => (outcome.failures.head?.map fun failure => failure.error.exitCode).getD 0
  | .failed error _ => error.exitCode
  | .crashed _ => 1

-- The run asked for signals after one had arrived, or was told of one.
def isStopped {σ : Type} (catches : Int → Bool) (policy : Policy) (request : Request) (calls : List (Call σ)) : Bool :=
  calls.any fun call => call.stirs catches && call.isFollowed policy request

-- What counts if several things went wrong: an interruption, then the setup, then the line that was not put back,
-- unless a value has ended the sweep, then the values.
def Policy.code (policy : Policy) (interrupted : Bool) (setup values restore : Option Mishap) : Nat :=
  if interrupted then 130
  else
    match setup with
    | some mishap => mishap.code
    | none =>
        if restore.isSome && (policy.goesOn || values.isNone) then Mishap.patch.code
        else (values.map Mishap.code).getD 0

section Codes

variable {σ : Type} {bench : Bench σ} {catches : Int → Bool} {calls : List (Call σ)} {start : Standing σ}
  {policy : Policy} {request : Request}

theorem mishap_code (error : SweepError) (mishap : Mishap) (caused : error.cause.mishap? = some mishap) :
    error.exitCode = mishap.code := by
  rw [SweepError.exitCode]
  cases cause : error.cause <;> rw [cause] at caused <;> cases caused <;> rfl

theorem interrupt_code (error : SweepError) (interrupted : error.isInterrupt = true) : error.exitCode = 130 := by
  rw [SweepError.isInterrupt] at interrupted
  rw [SweepError.exitCode]
  cases cause : error.cause <;> rw [cause] at interrupted <;> cases interrupted
  rfl

theorem kept_code (calls : List (Call σ)) :
    ((recordedBy .goOn calls).head?.map fun failure => failure.error.exitCode) =
      (firstMishap .values calls).map Mishap.code := by
  rw [recordedBy, Policy.keep, List.head?_filterMap, firstMishap, List.map_findSome?, List.map_findSome?]
  congr 1
  exact funext failure_code

theorem raised_code (error : SweepError) (ends : SweepEnds policy calls (some (.error error)))
    (restore : Option Mishap) :
    error.exitCode = policy.code error.isInterrupt (firstMishap .setup calls) (firstMishap .values calls) restore := by
  cases interrupted : error.isInterrupt with
  | true => exact interrupt_code error interrupted
  | false =>
      obtain ⟨mishap, cause, ⟨_, setup⟩ | ⟨rfl, setup, values⟩⟩ := raised_mishap error ends interrupted
      · rw [setup]
        exact mishap_code error mishap cause
      · rw [setup, values, mishap_code error mishap cause]
        cases restore <;> rfl

theorem completed_code (ends : SweepEnds policy calls none) :
    (Ending.completed ⟨resultsOf calls, recordedBy policy calls⟩).code =
      policy.code false (firstMishap .setup calls) (firstMishap .values calls) none := by
  cases ends with
  | values _ setup strict lenient explained =>
      rw [setup]
      cases policy with
      | failFast =>
          rw [strict rfl]
          rfl
      | goOn =>
          rw [Ending.code, kept_code]
          rfl

theorem unrestored_code (ends : SweepEnds policy calls none) :
    Mishap.patch.code = policy.code false (firstMishap .setup calls) (firstMishap .values calls) (some .patch) := by
  cases ends with
  | values _ setup strict lenient explained =>
      rw [setup]
      cases policy with
      | failFast =>
          rw [strict rfl]
          rfl
      | goOn => rfl

theorem restore_mishap (done : PatchDone σ) (valueless : done.call.value = none) (phase : Phase) :
    firstMishap phase [Call.patch done] = if phase = .restore then Call.mishap? (.patch done) else none := by
  have restores : Call.phase (.patch done) = .restore := by
    rw [Call.phase, valueless]
    rfl
  rw [firstMishap, List.findSome?_singleton, Call.mishapIn?, restores]
  cases phase <;> rfl

theorem sweep_stopped {last : Standing σ} {halt : Option Halt} (quiet : start.flag = none)
    (course : SweepCourse bench catches policy request start calls last halt) :
    interrupts halt = isStopped catches policy request calls := by
  rw [Bool.eq_iff_iff, sweep_interrupts_iff quiet course, isStopped, List.any_eq_true]
  simp only [Bool.and_eq_true]

theorem sweep_unrestored {last : Standing σ} {halt : Option Halt}
    (course : SweepCourse bench catches policy request start calls last halt) : firstMishap .restore calls = none := by
  refine List.findSome?_eq_none_iff.mpr fun call made => ?_
  rw [Call.mishapIn?, if_neg (sweep_phase course call made)]

-- What the ending of a run tells: whether the run was stopped, and what went wrong in it.
structure Tells (catches : Int → Bool) (policy : Policy) (request : Request) (calls : List (Call σ)) (ending : Ending) :
    Prop where
  stopped : ending.isInterrupt = isStopped catches policy request calls
  code : ending.code = policy.code (isStopped catches policy request calls) (firstMishap .setup calls)
    (firstMishap .values calls) (firstMishap .restore calls)

theorem sweep_tells {last : Standing σ} {halt : Option Halt} (quiet : start.flag = none)
    (course : SweepCourse bench catches policy request start calls last halt)
    (unfaulted : ∀ fault, halt ≠ some (.fault fault)) :
    Tells catches policy request calls (.ofHalt ⟨resultsOf calls, recordedBy policy calls⟩ halt) := by
  have ends := sweep_ends course
  refine ⟨?_, ?_⟩ <;> rw [← sweep_stopped quiet course]
  · exact of_halt_interrupt _ halt
  · rw [sweep_unrestored course]
    rcases halt with _ | error | fault
    · exact completed_code ends
    · exact raised_code error ends none
    · exact absurd rfl (unfaulted fault)

-- The patch that puts the line back is no call of the setup or of a value, and nobody asks for signals after it.
theorem restore_first_mishap (done : PatchDone σ) (valueless : done.call.value = none) (phase : Phase)
    (other : phase ≠ .restore) : firstMishap phase (calls ++ [.patch done]) = firstMishap phase calls := by
  rw [first_mishap_append, restore_mishap done valueless, if_neg other, Option.or_none]

theorem restore_stopped (done : PatchDone σ) (valueless : done.call.value = none) :
    isStopped catches policy request (calls ++ [.patch done]) = isStopped catches policy request calls := by
  rw [isStopped, List.any_append, List.any_cons, restore_unfollowed policy request done valueless, Bool.and_false,
    List.any_nil, Bool.or_false, Bool.or_false]
  rfl

theorem restore_tells (done : PatchDone σ) (valueless : done.call.value = none) (ending : Ending)
    (swept : firstMishap .restore calls = none)
    (stopped : ending.isInterrupt = isStopped catches policy request calls)
    (code : ending.code = policy.code (isStopped catches policy request calls) (firstMishap .setup calls)
      (firstMishap .values calls) (Call.mishap? (.patch done))) :
    Tells catches policy request (calls ++ [.patch done]) ending := by
  have restoring : firstMishap .restore (calls ++ [.patch done]) = Call.mishap? (.patch done) := by
    rw [first_mishap_append, restore_mishap done valueless, if_pos rfl, swept, Option.none_or]
  refine ⟨?_, ?_⟩ <;> rw [restore_stopped done valueless]
  · exact stopped
  · rw [restore_first_mishap done valueless .setup Phase.noConfusion,
      restore_first_mishap done valueless .values Phase.noConfusion, restoring]
    exact code

theorem restored_code {halt : Option Halt} (ends : SweepEnds policy calls halt) (done : PatchDone σ)
    (uncrashed : ∀ fault, (Ending.ofHalt ⟨resultsOf calls, recordedBy policy calls⟩ halt).restored done.answer ≠
      .crashed fault) :
    ((Ending.ofHalt ⟨resultsOf calls, recordedBy policy calls⟩ halt).restored done.answer).isInterrupt =
        interrupts halt ∧
      ((Ending.ofHalt ⟨resultsOf calls, recordedBy policy calls⟩ halt).restored done.answer).code =
        policy.code (interrupts halt) (firstMishap .setup calls) (firstMishap .values calls)
          (Call.mishap? (.patch done)) := by
  rw [Call.mishap?]
  generalize done.answer = answer at uncrashed ⊢
  rcases answer with (failure | fault) | previous
  · rcases halt with _ | error | fault
    · exact ⟨rfl, unrestored_code ends⟩
    · exact ⟨rfl, raised_code error ends (some .patch)⟩
    · exact absurd rfl (uncrashed fault)
  · exact absurd rfl (uncrashed fault)
  · rcases halt with _ | error | fault
    · exact ⟨rfl, completed_code ends⟩
    · exact ⟨rfl, raised_code error ends none⟩
    · exact absurd rfl (uncrashed fault)

theorem run_tells (final : σ) (ending : Ending) (real : request.dryRun = false) (quiet : start.flag = none)
    (course : RunCourse bench catches policy request start calls final ending)
    (uncrashed : ∀ fault, ending ≠ .crashed fault) : Tells catches policy request calls ending := by
  cases course with
  | told ending dry unfailing => cases dry.symm.trans real
  | swept calls last halt real swept unrestored =>
      refine sweep_tells quiet swept fun fault ended => ?_
      rw [ended] at uncrashed
      exact uncrashed fault rfl
  | restored early last halt line turn real swept restore found =>
      obtain ⟨interrupted, code⟩ := restored_code (sweep_ends swept)
        (bench.patchDone turn (request.patchCall none line) last.bench) uncrashed
      rw [sweep_stopped quiet swept] at interrupted code
      exact restore_tells _ rfl _ (sweep_unrestored swept) interrupted code

theorem ends_unhalted {halt : Option Halt} (ends : SweepEnds policy calls halt)
    (unmishapped : ∀ phase, phase ≠ .restore → firstMishap phase calls = none) (uninterrupted : interrupts halt = false)
    (unfaulted : ∀ fault, halt ≠ some (.fault fault)) : halt = none := by
  rcases halt with _ | error | fault
  · rfl
  · obtain ⟨mishap, _, ⟨_, setup⟩ | ⟨_, _, values⟩⟩ := raised_mishap error ends uninterrupted
    · cases setup.symm.trans (unmishapped .setup Phase.noConfusion)
    · cases values.symm.trans (unmishapped .values Phase.noConfusion)
  · exact absurd rfl (unfaulted fault)

theorem crash_stays (fault : Fault) (answer : Except PatchStop Text) :
    ∃ last, (Ending.crashed fault).restored answer = .crashed last := by
  rcases answer with (failure | last) | previous
  · exact ⟨fault, rfl⟩
  · exact ⟨last, rfl⟩
  · exact ⟨fault, rfl⟩

theorem restored_good (done : PatchDone σ) (ending : Ending) (unmishapped : Call.mishap? (.patch done) = none)
    (uncrashed : ∀ fault, ending.restored done.answer ≠ .crashed fault) : Call.isGood (.patch done) = true := by
  rw [Call.isGood]
  rw [Call.mishap?] at unmishapped
  generalize done.answer = answer at unmishapped uncrashed
  rcases answer with (failure | fault) | previous
  · cases unmishapped
  · exact absurd rfl (uncrashed fault)
  · rfl

theorem run_performed (final : σ) (ending : Ending) (real : request.dryRun = false)
    (valued : request.config.values ≠ [])
    (course : RunCourse bench catches policy request start calls final ending)
    (unmishapped : ∀ phase, firstMishap phase calls = none) (uninterrupted : ending.isInterrupt = false)
    (uncrashed : ∀ fault, ending ≠ .crashed fault) :
    request.Performed calls ∧ ∀ call ∈ calls, call.isGood = true := by
  cases course with
  | told ending dry unfailing => cases dry.symm.trans real
  | swept calls last halt real swept unrestored =>
      have unfaulted (fault : Fault) (faulted : halt = some (.fault fault)) : False := by
        rw [faulted] at uncrashed
        exact uncrashed fault rfl
      rw [of_halt_interrupt] at uninterrupted
      have ended := ends_unhalted (sweep_ends swept) (fun phase _ => unmishapped phase) uninterrupted unfaulted
      obtain ⟨tasks, listed, done⟩ := sweep_done swept ended (unmishapped .values)
      have kept : request.restore ≠ true :=
        fun restore => done_first_previous tasks listed done valued (unrestored restore)
      refine ⟨⟨tasks, listed, ?_⟩, done.good⟩
      rw [if_neg kept]
      exact done.tasks
  | restored early last halt line turn real swept restore found =>
      have unfaulted (fault : Fault) (faulted : halt = some (.fault fault)) : False := by
        rw [faulted] at uncrashed
        obtain ⟨last, crashed⟩ := crash_stays fault _
        exact uncrashed last crashed
      have mishaps (phase : Phase) (other : phase ≠ .restore) : firstMishap phase early = none :=
        (restore_first_mishap _ rfl phase other).symm.trans (unmishapped phase)
      have unrestored := unmishapped .restore
      rw [first_mishap_append, sweep_unrestored swept, Option.none_or, restore_mishap _ rfl, if_pos rfl] at unrestored
      obtain ⟨interrupted, _⟩ := restored_code (sweep_ends swept)
        (bench.patchDone turn (request.patchCall none line) last.bench) uncrashed
      have ended := ends_unhalted (sweep_ends swept) mishaps (interrupted.symm.trans uninterrupted) unfaulted
      obtain ⟨tasks, listed, done⟩ := sweep_done swept ended (mishaps .values Phase.noConfusion)
      refine ⟨⟨tasks, listed, ?_⟩, List.forall_mem_append.mpr ⟨done.good, ?_⟩⟩
      · rw [if_pos restore]
        refine ⟨line, ?_, ?_⟩
        · rw [first_previous_append, found, Option.some_or]
        · rw [List.map_append, done.tasks]
          rfl
      · exact List.forall_mem_singleton.mpr (restored_good _ _ unrestored uncrashed)

theorem mishap_code_positive (mishap : Mishap) : mishap.code ≠ 0 := by
  cases mishap <;> decide

theorem code_zero_iff (interrupted : Bool) (setup values restore : Option Mishap) :
    policy.code interrupted setup values restore = 0 ↔
      interrupted = false ∧ setup = none ∧ values = none ∧ restore = none := by
  constructor
  · intro zero
    unfold Policy.code at zero
    split at zero
    · cases zero
    · rename_i calm
      cases setup with
      | some mishap => exact absurd zero (mishap_code_positive mishap)
      | none =>
          dsimp only at zero
          split at zero
          · exact absurd zero (mishap_code_positive .patch)
          · rename_i unrestored
            cases values with
            | some mishap => exact absurd zero (mishap_code_positive mishap)
            | none =>
                refine ⟨Bool.eq_false_iff.mpr calm, rfl, rfl, ?_⟩
                cases restore with
                | none => rfl
                | some mishap => simp at unrestored
  · rintro ⟨rfl, rfl, rfl, rfl⟩
    rfl

-- The code is zero exactly if all that was asked for has been done, and done well, and nothing has stopped the run.
theorem run_zero_iff (final : σ) (ending : Ending) (real : request.dryRun = false) (quiet : start.flag = none)
    (valued : request.config.values ≠ [])
    (course : RunCourse bench catches policy request start calls final ending)
    (uncrashed : ∀ fault, ending ≠ .crashed fault) :
    ending.code = 0 ↔ request.Performed calls ∧ (∀ call ∈ calls, call.isGood = true) ∧
      isStopped catches policy request calls = false := by
  have tells := run_tells final ending real quiet course uncrashed
  rw [tells.code, code_zero_iff]
  constructor
  · rintro ⟨calm, setup, values, restore⟩
    have unmishapped (phase : Phase) : firstMishap phase calls = none := by
      cases phase <;> assumption
    obtain ⟨performed, good⟩ := run_performed final ending real valued course unmishapped (tells.stopped.trans calm) uncrashed
    exact ⟨performed, good, calm⟩
  · rintro ⟨_, good, calm⟩
    exact ⟨calm, good_no_mishaps .setup calls good, good_no_mishaps .values calls good, good_no_mishaps .restore calls good⟩

end Codes

section Policies

variable {σ : Type} (runner : Runner σ) (request : Request) (workplace : Workplace σ)

def Runner.sweptCalls : List (Call σ) :=
  (runner.bench.readTrace workplace.forwarder.enter.catches ⟨workplace.bench, 0, none, 1⟩
    (runner.runAll request (.opening workplace)).1.trace).1

theorem real_calls (real : request.dryRun = false) :
    ∃ last restoring, SweepCourse runner.bench workplace.forwarder.enter.catches runner.policy request
        (State.opening workplace).standing (runner.sweptCalls request workplace) last
        (runner.runAll request (.opening workplace)).2 ∧
      runner.calls request workplace = runner.sweptCalls request workplace ++ restoring ∧
      ∀ call ∈ restoring, call.phase = .restore := by
  have tracked : Tracked runner.bench workplace.forwarder.enter.catches ⟨workplace.bench, 0, none, 1⟩ [] 0 none 1
      (.opening workplace) := ⟨rfl, rfl, Forwarder.enter_is_inside workplace.forwarder⟩
  obtain ⟨calls, swept, halt, turn, value, index, ran, course, steered⟩ := run_all_course request tracked
  have same : runner.sweptCalls request workplace = calls := by
    rw [Runner.sweptCalls, ran, steered.tracked.read]
    rfl
  rw [same, ran]
  refine ⟨swept.standing, ?_⟩
  cases restored : (if request.restore then swept.firstLine else none) with
  | none =>
      have unrestored (restore : request.restore = true) : swept.firstLine = none := by
        rwa [if_pos restore] at restored
      refine ⟨[], course, ?_, List.forall_mem_nil _⟩
      rw [Runner.calls, real_run_kept runner request workplace swept halt real ran unrestored, State.finished]
      dsimp only
      rw [steered.tracked.read, List.append_nil]
      rfl
  | some line =>
      rw [Option.ite_none_right_eq_some] at restored
      obtain ⟨after, putBack, trackedOn, _⟩ :=
        restore_line_course request line (.ofHalt swept.outcome halt) steered.tracked
      refine ⟨[.patch (runner.bench.patchDone turn (request.patchCall none line) swept.bench)], course, ?_, ?_⟩
      · rw [Runner.calls, real_run_restored runner request workplace swept after halt line _ real ran restored.1
          restored.2 putBack, State.finished]
        dsimp only
        rw [trackedOn.read]
        rfl
      · exact List.forall_mem_singleton.mpr rfl

theorem values_mishap_swept (real : request.dryRun = false) :
    firstMishap .values (runner.calls request workplace) =
      firstMishap .values (runner.sweptCalls request workplace) := by
  obtain ⟨_, restoring, _, calls, restores⟩ := real_calls runner request workplace real
  rw [calls, first_mishap_append, first_mishap_without .values .restore restoring Phase.noConfusion restores,
    Option.or_none]

theorem given_up_mishap {calls : List (Call σ)} {state after : State σ} {ended : State σ × Option Halt}
    (error : SweepError) (givesUp : GivesUp state ended after error) (ends : SweepEnds .failFast calls ended.2) :
    firstMishap .values calls ≠ none := by
  rw [givesUp.halted] at ends
  obtain ⟨mishap, _, ⟨valueless, _⟩ | ⟨_, _, values⟩⟩ := raised_mishap error ends givesUp.plain
  · exact absurd valueless givesUp.value
  · rw [values]
    exact Option.some_ne_none mishap

theorem strict_mishap_lenient (real : request.dryRun = false) :
    firstMishap .values ((runner.under .failFast).sweptCalls request workplace) =
      firstMishap .values ((runner.under .goOn).sweptCalls request workplace) := by
  obtain ⟨_, _, course, _⟩ := real_calls (runner.under .failFast) request workplace real
  rcases run_all_parts runner request (.opening workplace) with ⟨same, _⟩ | ⟨after, error, givesUp, extended⟩
  · rw [Runner.sweptCalls, same]
    rfl
  · have met := given_up_mishap error givesUp (sweep_ends course)
    obtain ⟨added, trace⟩ := (noted_extends after _).trace.trans extended.trace
    rw [Runner.sweptCalls, givesUp.halted] at met ⊢
    rw [Runner.sweptCalls, ← trace, Bench.read_trace_append, first_mishap_append]
    obtain ⟨mishap, found⟩ := Option.ne_none_iff_exists'.mp met
    exact found.trans ((congrArg (Option.or · _) found).trans Option.some_or).symm

theorem first_mishap_alike (policy : Policy) :
    firstMishap .values ((runner.under policy).calls request workplace) =
      firstMishap .values (runner.calls request workplace) := by
  cases dry : request.dryRun with
  | true =>
      have same : (runner.under policy).run request workplace = runner.run request workplace := by
        rw [Runner.run, Runner.run, if_pos dry, if_pos dry, dry_run_under]
      rw [Runner.calls, same]
      rfl
  | false =>
      have lenient (other : Policy) : firstMishap .values ((runner.under other).sweptCalls request workplace) =
          firstMishap .values ((runner.under .goOn).sweptCalls request workplace) := by
        cases other with
        | failFast => exact strict_mishap_lenient runner request workplace dry
        | goOn => rfl
      rw [values_mishap_swept _ _ _ dry, values_mishap_swept _ _ _ dry]
      exact (lenient policy).trans (lenient runner.policy).symm

end Policies

-- What the exit code of a run says. The kind of the first failure of a value does not depend on the policy.
structure TellsWhatHappened {σ : Type} (runner : Runner σ) (request : Request) (workplace : Workplace σ) (code : Nat) :
    Prop where
  zero : code = 0 ↔ request.Performed (runner.calls request workplace) ∧
    (∀ call ∈ runner.calls request workplace, call.isGood = true) ∧
    isStopped workplace.forwarder.enter.catches runner.policy request (runner.calls request workplace) = false
  code : code = runner.policy.code
    (isStopped workplace.forwarder.enter.catches runner.policy request (runner.calls request workplace))
    (firstMishap .setup (runner.calls request workplace)) (firstMishap .values (runner.calls request workplace))
    (firstMishap .restore (runner.calls request workplace))
  stopped : (runner.run request workplace).ending.isInterrupt =
    isStopped workplace.forwarder.enter.catches runner.policy request (runner.calls request workplace)
  alike : ∀ policy, firstMishap .values ((runner.under policy).calls request workplace) =
    firstMishap .values (runner.calls request workplace)

theorem run_tells_what_happened {σ : Type} (runner : Runner σ) (request : Request) (workplace : Workplace σ)
    (real : request.dryRun = false) (valued : request.config.values ≠ [])
    (quiet : workplace.forwarder.enter.received = none)
    (uncrashed : ∀ fault, (runner.run request workplace).ending ≠ .crashed fault) :
    TellsWhatHappened runner request workplace (runner.run request workplace).ending.code := by
  have course := run_course runner request workplace
  have tells := run_tells _ _ real quiet course uncrashed
  exact ⟨run_zero_iff _ _ real quiet valued course uncrashed, tells.code, tells.stopped,
    first_mishap_alike runner request workplace⟩

end ConstantSweep.Sweep

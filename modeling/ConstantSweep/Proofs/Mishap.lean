import ConstantSweep.Proofs.Accounting
import ConstantSweep.Proofs.Interruption

set_option autoImplicit false

namespace ConstantSweep.Sweep

open ConstantSweep.Signal

-- What can go wrong with a call so that the sweep accounts for it: the line cannot be patched, the process cannot be
-- started, or it does not end with zero.
inductive Mishap where
  | patch
  | spawn
  | exit
  deriving DecidableEq

def Mishap.code : Mishap → Nat
  | .patch => 3
  | .spawn => 4
  | .exit => 5

-- What a call is made for: the setup, a value, or the line that is to be put back.
inductive Phase where
  | setup
  | values
  | restore
  deriving DecidableEq

namespace Call

variable {σ : Type}

def phase : Call σ → Phase
  | .patch done => if done.call.value.isSome then .values else .restore
  | .spawn done => if done.value.isSome then .values else .setup

def isGood : Call σ → Bool
  | .patch done => done.answer.isOk
  | .spawn done =>
      match done.answer with
      | .ok measured => measured.exitCode == 0
      | .error _ => false

def mishap? : Call σ → Option Mishap
  | .patch done =>
      match done.answer with
      | .error (.failure _) => some .patch
      | _ => none
  | .spawn done =>
      match done.answer with
      | .error (.failure _) => some .spawn
      | .ok measured => if measured.exitCode = 0 then none else some .exit
      | _ => none

def mishapIn? (phase : Phase) (call : Call σ) : Option Mishap := if call.phase = phase then call.mishap? else none

end Call

def firstMishap {σ : Type} (phase : Phase) (calls : List (Call σ)) : Option Mishap :=
  calls.findSome? (Call.mishapIn? phase)

def Cause.mishap? : Cause → Option Mishap
  | .patch _ => some .patch
  | .spawn _ => some .spawn
  | .execution _ _ _ => some .exit
  | _ => none

def Halt.mishap? : Halt → Option Mishap
  | .error raised => raised.cause.mishap?
  | .fault _ => none

def Explained (halt : Option Halt) : Prop :=
  ∀ error, halt = some (.error error) → error.isInterrupt = true ∨ error.cause.mishap? ≠ none

section Mishaps

variable {σ : Type}

theorem first_mishap_append (phase : Phase) (first second : List (Call σ)) :
    firstMishap phase (first ++ second) = (firstMishap phase first).or (firstMishap phase second) :=
  List.findSome?_append

theorem first_mishap_within (phase : Phase) (calls : List (Call σ)) (within : ∀ call ∈ calls, call.phase = phase) :
    firstMishap phase calls = calls.findSome? Call.mishap? := by
  induction calls with
  | nil => rfl
  | cons call rest ih =>
      obtain ⟨here, others⟩ := List.forall_mem_cons.mp within
      have same := ih others
      rw [firstMishap] at same ⊢
      rw [List.findSome?_cons, List.findSome?_cons, Call.mishapIn?, if_pos here, same]

theorem first_mishap_without (phase other : Phase) (calls : List (Call σ)) (different : other ≠ phase)
    (within : ∀ call ∈ calls, call.phase = other) : firstMishap phase calls = none := by
  rw [firstMishap, List.findSome?_eq_none_iff]
  intro call made
  rw [Call.mishapIn?, within call made, if_neg different]

theorem good_no_mishap (call : Call σ) (good : call.isGood = true) : call.mishap? = none := by
  cases call with
  | patch done =>
      rw [Call.isGood] at good
      rw [Call.mishap?]
      cases answer : done.answer with
      | ok previous => rfl
      | error stop =>
          rw [answer] at good
          cases good
  | spawn done =>
      rw [Call.isGood] at good
      rw [Call.mishap?]
      cases answer : done.answer with
      | ok measured =>
          rw [answer] at good
          exact if_pos (beq_iff_eq.mp good)
      | error stop =>
          rw [answer] at good
          cases good

theorem good_no_mishaps (phase : Phase) (calls : List (Call σ)) (good : ∀ call ∈ calls, call.isGood = true) :
    firstMishap phase calls = none := by
  rw [firstMishap, List.findSome?_eq_none_iff]
  intro call made
  rw [Call.mishapIn?, good_no_mishap call (good call made)]
  split <;> rfl

theorem failure_code (call : Call σ) :
    call.failure?.map (fun failure => failure.error.exitCode) = (call.mishapIn? .values).map Mishap.code := by
  cases call with
  | patch done =>
      rw [Call.failure?, Call.mishapIn?, Call.phase, Call.mishap?]
      cases done.call.value with
      | none => rfl
      | some value =>
          rcases done.answer with (failure | fault) | previous <;> rfl
  | spawn done =>
      rw [Call.failure?, Call.mishapIn?, Call.phase, Call.mishap?]
      cases done.value with
      | none => cases done.answer with
          | error stop => cases stop <;> rfl
          | ok measured => rfl
      | some value =>
          rcases done.answer with (failure | signal | fault) | measured
          · rfl
          · rfl
          · rfl
          · by_cases zero : measured.exitCode = 0 <;> simp [zero]
            rfl

end Mishaps

-- What steps come to: they end by the first mishap among their calls, if by any.
structure EndsByMishap {σ : Type} (calls : List (Call σ)) (halt : Option Halt) : Prop where
  mishap : calls.findSome? Call.mishap? = halt.bind Halt.mishap?
  kind : ∀ error, halt = some (.error error) → error.isInterrupt = true ∨ error.isOfStep = true

-- What values come to: a sweep that goes on does not end by a mishap.
structure EndsUnder {σ : Type} (policy : Policy) (calls : List (Call σ)) (halt : Option Halt) : Prop where
  strict : policy = .failFast → calls.findSome? Call.mishap? = halt.bind Halt.mishap?
  lenient : policy = .goOn → halt.bind Halt.mishap? = none
  explained : Explained halt

theorem explained_errorless (halt : Option Halt) (errorless : Errorless halt) : Explained halt :=
  fun error same => absurd same (errorless error)

theorem explained_error (error : SweepError) (cause : error.isInterrupt = true ∨ error.cause.mishap? ≠ none) :
    Explained (some (.error error)) := by
  intro other same
  cases same
  exact cause

theorem interrupt_no_mishap (error : SweepError) (interrupted : error.isInterrupt = true) :
    error.cause.mishap? = none := by
  rw [SweepError.isInterrupt] at interrupted
  cases cause : error.cause <;> simp_all [Cause.mishap?]

theorem of_step_mishap (error : SweepError) (ofStep : error.isOfStep = true) : error.cause.mishap? ≠ none := by
  rw [SweepError.isOfStep] at ofStep
  cases cause : error.cause <;> simp_all [Cause.mishap?]

section Courses

variable {σ : Type} {bench : Bench σ} {catches : Int → Bool} {turn : Nat} {value : Option Int} {index : Int}
  {calls : List (Call σ)} {start last : Standing σ} {halt : Option Halt} {policy : Policy} {request : Request}

theorem ends_error (error : SweepError) (first : calls.findSome? Call.mishap? = error.cause.mishap?)
    (kind : error.isInterrupt = true ∨ error.isOfStep = true) : EndsByMishap calls (some (.error error)) := by
  refine ⟨first, ?_⟩
  intro other same
  cases same
  exact kind

theorem ends_errorless (first : calls.findSome? Call.mishap? = none) (unmishapped : halt.bind Halt.mishap? = none)
    (errorless : Errorless halt) : EndsByMishap calls halt :=
  ⟨first.trans unmishapped.symm, fun error same => absurd same (errorless error)⟩

theorem step_ends (step : Step) (course : StepCourse bench catches turn value index step start calls last halt) :
    EndsByMishap calls halt := by
  cases course with
  | noticed signal flag => exact ends_error _ rfl (.inl rfl)
  | nameless fault quiet named => exact ends_errorless rfl rfl (errorless_fault fault)
  | stopped stop quiet told =>
      cases stop with
      | failure cause =>
          refine ends_error _ ?_ (.inr rfl)
          simp [Call.mishap?, Bench.spawnDone, told, Cause.mishap?]
      | interrupt signal =>
          refine ends_error _ ?_ (.inl rfl)
          simp [Call.mishap?, Bench.spawnDone, told, Cause.mishap?, SweepError.interrupted, SweepError.located]
      | fault fault =>
          refine ends_errorless ?_ rfl (errorless_fault fault)
          simp [Call.mishap?, Bench.spawnDone, told]
  | failed measured quiet told bad =>
      refine ends_error _ ?_ (.inr rfl)
      simp [Call.mishap?, Bench.spawnDone, told, bad, Cause.mishap?, SweepError.stepFailed]
  | passed measured quiet told zero =>
      refine ends_errorless ?_ rfl errorless_none
      simp [Call.mishap?, Bench.spawnDone, told, zero]

theorem mishap_append (early later : List (Call σ)) (unmishapped : early.findSome? Call.mishap? = none) :
    (early ++ later).findSome? Call.mishap? = later.findSome? Call.mishap? := by
  rw [List.findSome?_append, unmishapped, Option.none_or]

theorem steps_end_by_mishap (steps : List Step)
    (course : StepsCourse bench catches turn value index steps start calls last halt) : EndsByMishap calls halt := by
  induction course with
  | done index start => exact ends_errorless rfl rfl errorless_none
  | halted index step rest start calls last halt first => exact step_ends step first
  | next index step rest start calls later middle last halt first _ ih =>
      exact ⟨(mishap_append calls later (step_ends step first).mishap).trans ih.mishap, ih.kind⟩

theorem under_errorless (first : calls.findSome? Call.mishap? = none) (unmishapped : halt.bind Halt.mishap? = none)
    (errorless : Errorless halt) : EndsUnder policy calls halt :=
  ⟨fun _ => first.trans unmishapped.symm, fun _ => unmishapped, explained_errorless halt errorless⟩

theorem under_interrupt (error : SweepError) (interrupted : error.isInterrupt = true)
    (first : calls.findSome? Call.mishap? = none) : EndsUnder policy calls (some (.error error)) :=
  have unmishapped := interrupt_no_mishap error interrupted
  ⟨fun _ => first.trans unmishapped.symm, fun _ => unmishapped, explained_error error (.inl interrupted)⟩

theorem given_ends (error : SweepError) (caused : error.cause.mishap? ≠ none)
    (first : calls.findSome? Call.mishap? = error.cause.mishap?) : EndsUnder policy calls (policy.give error) := by
  cases policy with
  | failFast =>
      exact ⟨fun _ => first, fun other => Policy.noConfusion other, explained_error error (.inr caused)⟩
  | goOn => exact ⟨fun other => Policy.noConfusion other, fun _ => rfl, explained_errorless _ errorless_none⟩

theorem settled_ends (ends : EndsByMishap calls halt) : EndsUnder policy calls (policy.settle halt) := by
  rcases halt with _ | error | fault
  · exact under_errorless ends.mishap rfl errorless_none
  · rw [Policy.settle]
    cases ofStep : error.isOfStep with
    | true => exact given_ends error (of_step_mishap error ofStep) ends.mishap
    | false =>
        have interrupted := (ends.kind error rfl).resolve_right (Bool.eq_false_iff.mp ofStep)
        exact under_interrupt error interrupted (ends.mishap.trans (interrupt_no_mishap error interrupted))
  · exact under_errorless ends.mishap rfl (errorless_fault fault)

theorem value_ends (taken : Int) (course : ValueCourse bench catches policy request turn taken start calls last halt) :
    EndsUnder policy calls halt := by
  cases course with
  | unrendered fault rendered => exact under_errorless rfl rfl (errorless_fault fault)
  | crashed line fault rendered answer =>
      refine under_errorless ?_ rfl (errorless_fault fault)
      simp [Call.mishap?, Bench.patchDone, answer]
  | unpatched line failure rendered answer =>
      refine given_ends _ (Option.some_ne_none Mishap.patch) ?_
      simp [Call.mishap?, Bench.patchDone, answer, Cause.mishap?]
  | patched line previous later last halt rendered answer patched =>
      have made : Call.mishap? (.patch (bench.patchDone turn (request.patchCall (some taken) line) start.bench)) = none := by
        simp only [Call.mishap?, Bench.patchDone, answer]
      have ends : EndsUnder policy later halt := by
        cases patched with
        | noticed signal flag => exact under_interrupt _ rfl rfl
        | stepless fault quiet factory => exact under_errorless rfl rfl (errorless_fault fault)
        | ran steps calls last halt quiet factory ran => exact settled_ends (steps_end_by_mishap steps ran)
      refine ⟨fun strict => ?_, ends.lenient, ends.explained⟩
      rw [List.findSome?_cons, made]
      exact ends.strict strict

theorem values_end (values : List Int)
    (course : ValuesCourse bench catches policy request turn values start calls last halt) :
    EndsUnder policy calls halt := by
  induction course with
  | done turn start => exact under_errorless rfl rfl errorless_none
  | noticed turn value rest start signal flag => exact under_interrupt _ rfl rfl
  | halted turn value rest start calls last halt quiet first => exact value_ends value first
  | next turn value rest start calls later middle last halt quiet first _ ih =>
      refine ⟨fun strict => ?_, ih.lenient, ih.explained⟩
      exact (mishap_append calls later ((value_ends value first).strict strict)).trans (ih.strict strict)

theorem step_valued (step : Step) (course : StepCourse bench catches turn value index step start calls last halt)
    (error : SweepError) (raised : halt = some (.error error)) : error.value = value := by
  cases course with
  | noticed signal flag =>
      cases raised
      rfl
  | nameless fault quiet named => cases raised
  | stopped stop quiet told => cases stop <;> cases raised <;> rfl
  | failed measured quiet told bad =>
      cases raised
      rfl
  | passed measured quiet told zero => cases raised

theorem steps_valued (steps : List Step)
    (course : StepsCourse bench catches turn value index steps start calls last halt)
    (error : SweepError) (raised : halt = some (.error error)) : error.value = value := by
  induction course with
  | done index start => cases raised
  | halted index step rest start calls last halt first => exact step_valued step first error raised
  | next index step rest start calls later middle last halt first _ ih => exact ih raised

theorem setup_phase (steps : List Step)
    (course : StepsCourse bench catches turn none index steps start calls last halt) (call : Call σ)
    (made : call ∈ calls) : call.phase = .setup := by
  obtain ⟨done, _, rfl, _, valueless, _⟩ := steps_placed steps course call made
  rw [Call.phase, valueless]
  rfl

theorem value_phase (taken : Int) (course : ValueCourse bench catches policy request turn taken start calls last halt)
    (call : Call σ) (made : call ∈ calls) : call.phase = .values := by
  cases course with
  | unrendered fault rendered => cases made
  | crashed line fault rendered answer =>
      obtain rfl := List.mem_singleton.mp made
      rfl
  | unpatched line failure rendered answer =>
      obtain rfl := List.mem_singleton.mp made
      rfl
  | patched line previous later last halt rendered answer patched =>
      rcases List.mem_cons.mp made with rfl | there
      · rfl
      · obtain ⟨done, _, _, rfl, _, valued, _⟩ := patched_placed taken patched call there
        rw [Call.phase, valued]
        rfl

theorem values_phase (values : List Int)
    (course : ValuesCourse bench catches policy request turn values start calls last halt) (call : Call σ)
    (made : call ∈ calls) : call.phase = .values := by
  induction course with
  | done turn start => cases made
  | noticed turn value rest start signal flag => cases made
  | halted turn value rest start calls last halt quiet first => exact value_phase value first call made
  | next turn value rest start calls later middle last halt quiet first _ ih =>
      rcases List.mem_append.mp made with here | there
      · exact value_phase value first call here
      · exact ih there

theorem sweep_phase (course : SweepCourse bench catches policy request start calls last halt) (call : Call σ)
    (made : call ∈ calls) : call.phase ≠ .restore := by
  intro restores
  cases course with
  | halted calls last halt setup =>
      exact Phase.noConfusion ((setup_phase request.setup setup call made).symm.trans restores)
  | prepared early later middle last halt setup values =>
      rcases List.mem_append.mp made with here | there
      · exact Phase.noConfusion ((setup_phase request.setup setup call here).symm.trans restores)
      · exact Phase.noConfusion ((values_phase request.config.values values call there).symm.trans restores)

inductive SweepEnds (policy : Policy) (calls : List (Call σ)) : Option Halt → Prop where
  | setup (halt : Halt) : firstMishap .setup calls = halt.mishap? → firstMishap .values calls = none →
      Explained (some halt) → (∀ error, halt = .error error → error.value = none) → SweepEnds policy calls (some halt)
  | values (halt : Option Halt) : firstMishap .setup calls = none →
      (policy = .failFast → firstMishap .values calls = halt.bind Halt.mishap?) →
      (policy = .goOn → halt.bind Halt.mishap? = none) → Explained halt → SweepEnds policy calls halt

theorem sweep_ends (course : SweepCourse bench catches policy request start calls last halt) :
    SweepEnds policy calls halt := by
  cases course with
  | halted calls last halt setup =>
      have phases := setup_phase request.setup setup
      have ends := steps_end_by_mishap request.setup setup
      refine .setup halt ?_ ?_ ?_ ?_
      · rw [first_mishap_within .setup calls phases, ends.mishap]
        rfl
      · exact first_mishap_without .values .setup calls (fun same => Phase.noConfusion same) phases
      · intro error raised
        exact (ends.kind error raised).imp_right (of_step_mishap error)
      · intro error raised
        exact steps_valued request.setup setup error (congrArg some raised)
  | prepared early later middle last halt setup values =>
      have earlyPhases := setup_phase request.setup setup
      have laterPhases := values_phase request.config.values values
      have ends := values_end request.config.values values
      have unmishapped := (steps_end_by_mishap request.setup setup).mishap
      refine .values halt ?_ ?_ ends.lenient ends.explained
      · rw [first_mishap_append, first_mishap_within .setup early earlyPhases, unmishapped,
          first_mishap_without .setup .values later (fun same => Phase.noConfusion same) laterPhases]
        rfl
      · intro strict
        rw [first_mishap_append, first_mishap_within .values later laterPhases,
          first_mishap_without .values .setup early (fun same => Phase.noConfusion same) earlyPhases, Option.none_or]
        exact ends.strict strict

-- An error that is no interruption is the first mishap: of the setup, or else of the values under the strict policy.
theorem raised_mishap (error : SweepError) (ends : SweepEnds policy calls (some (.error error)))
    (uninterrupted : error.isInterrupt = false) :
    ∃ mishap, error.cause.mishap? = some mishap ∧
      ((error.value = none ∧ firstMishap .setup calls = some mishap) ∨
        (policy = .failFast ∧ firstMishap .setup calls = none ∧ firstMishap .values calls = some mishap)) := by
  have caused (explained : Explained (some (.error error))) : ∃ mishap, error.cause.mishap? = some mishap :=
    Option.ne_none_iff_exists'.mp ((explained error rfl).resolve_left (Bool.eq_false_iff.mp uninterrupted))
  cases ends with
  | setup _ setup values explained valueless =>
      obtain ⟨mishap, cause⟩ := caused explained
      exact ⟨mishap, cause, .inl ⟨valueless error rfl, setup.trans cause⟩⟩
  | values _ setup strict lenient explained =>
      obtain ⟨mishap, cause⟩ := caused explained
      cases policy with
      | goOn => cases cause.symm.trans (lenient rfl)
      | failFast => exact ⟨mishap, cause, .inr ⟨rfl, setup, (strict rfl).trans cause⟩⟩

theorem sweep_interrupts_iff (quiet : start.flag = none)
    (course : SweepCourse bench catches policy request start calls last halt) :
    interrupts halt = true ↔ ∃ call ∈ calls, call.stirs catches = true ∧ call.isFollowed policy request = true := by
  constructor
  · intro interrupted
    obtain ⟨call, made, stirs⟩ := (sweep_cause course interrupted).resolve_left (not_not_intro quiet)
    exact ⟨call, made, stirs, (sweep_heard course call made stirs).symm.trans interrupted⟩
  · rintro ⟨call, made, stirs, followed⟩
    exact (sweep_heard course call made stirs).trans followed

end Courses

end ConstantSweep.Sweep

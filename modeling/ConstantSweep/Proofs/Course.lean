import ConstantSweep.Proofs.Call

set_option autoImplicit false

namespace ConstantSweep.Sweep

open ConstantSweep.Signal

-- What decides how a run goes on: the state of the bench, and the signal that waits to be asked for.
structure Standing (σ : Type) where
  bench : σ
  flag : Option Int

namespace Standing

variable {σ : Type}

def afterPatch (bench : Bench σ) (catches : Int → Bool) (call : PatchCall) (standing : Standing σ) : Standing σ :=
  ⟨(bench.patch call standing.bench).state,
    (caught catches (bench.patch call standing.bench).signals).or standing.flag⟩

def afterSpawn (bench : Bench σ) (catches : Int → Bool) (step : Step) (standing : Standing σ) : Standing σ :=
  ⟨(bench.spawn step standing.bench).state, bench.pending catches step standing.bench⟩

def asked (standing : Standing σ) : Standing σ := { standing with flag := none }

end Standing

def Policy.give (policy : Policy) (error : SweepError) : Option Halt :=
  match policy with
  | .failFast => some (.error error)
  | .goOn => none

def Policy.settle (policy : Policy) (halt : Option Halt) : Option Halt :=
  match halt with
  | some (.error error) => if error.isOfStep then policy.give error else some (.error error)
  | other => other

def Errorless (halt : Option Halt) : Prop := ∀ error, halt ≠ some (.error error)

theorem errorless_none : Errorless none := by
  rintro error same
  cases same

theorem errorless_fault (fault : Fault) : Errorless (some (.fault fault)) := by
  rintro error same
  cases same

def Request.patchCall (request : Request) (value : Option Int) (line : Text) : PatchCall :=
  ⟨⟨request.config.target, request.config.pattern, line⟩, value⟩

section Rules

variable {σ : Type} (bench : Bench σ) (catches : Int → Bool)

inductive StepCourse (turn : Nat) (value : Option Int) (index : Int) (step : Step) :
    Standing σ → List (Call σ) → Standing σ → Option Halt → Prop where
  | noticed (start : Standing σ) (signal : Int) : start.flag = some signal →
      StepCourse turn value index step start [] start.asked (some (.error (.interrupted signal value (some index))))
  | nameless (start : Standing σ) (fault : Fault) : start.flag = none →
      stepMessage value index step = .error fault →
      StepCourse turn value index step start [] start (some (.fault fault))
  | stopped (start : Standing σ) (stop : SpawnStop) : start.flag = none →
      bench.told catches step start.bench = .error stop → (stepMessage value index step).isOk = true →
      StepCourse turn value index step start [.spawn (bench.spawnDone catches turn value index step start.bench)]
        (start.afterSpawn bench catches step) (some (stop.halt value index))
  | failed (start : Standing σ) (measured : Measured) : start.flag = none →
      bench.told catches step start.bench = .ok measured → measured.exitCode ≠ 0 →
      (stepMessage value index step).isOk = true →
      StepCourse turn value index step start [.spawn (bench.spawnDone catches turn value index step start.bench)]
        (start.afterSpawn bench catches step) (some (.error (.stepFailed value index measured.exitCode)))
  | passed (start : Standing σ) (measured : Measured) : start.flag = none →
      bench.told catches step start.bench = .ok measured → measured.exitCode = 0 →
      (stepMessage value index step).isOk = true →
      StepCourse turn value index step start [.spawn (bench.spawnDone catches turn value index step start.bench)]
        (start.afterSpawn bench catches step) none

inductive StepsCourse (turn : Nat) (value : Option Int) :
    Int → List Step → Standing σ → List (Call σ) → Standing σ → Option Halt → Prop where
  | done (index : Int) (start : Standing σ) : StepsCourse turn value index [] start [] start none
  | halted (index : Int) (step : Step) (rest : List Step) (start : Standing σ) (calls : List (Call σ))
      (last : Standing σ) (halt : Halt) :
      StepCourse bench catches turn value index step start calls last (some halt) →
      StepsCourse turn value index (step :: rest) start calls last (some halt)
  | next (index : Int) (step : Step) (rest : List Step) (start : Standing σ) (calls later : List (Call σ))
      (middle last : Standing σ) (halt : Option Halt) :
      StepCourse bench catches turn value index step start calls middle none →
      StepsCourse turn value (index + 1) rest middle later last halt →
      StepsCourse turn value index (step :: rest) start (calls ++ later) last halt

variable (policy : Policy) (request : Request)

inductive PatchedCourse (turn : Nat) (value : Int) :
    Standing σ → List (Call σ) → Standing σ → Option Halt → Prop where
  | noticed (start : Standing σ) (signal : Int) : start.flag = some signal →
      PatchedCourse turn value start [] start.asked (some (.error (.interrupted signal (some value) none)))
  | stepless (start : Standing σ) (fault : Fault) : start.flag = none → request.steps value = .error fault →
      PatchedCourse turn value start [] start (some (.fault fault))
  | ran (start : Standing σ) (steps : List Step) (calls : List (Call σ)) (last : Standing σ) (halt : Option Halt) :
      start.flag = none → request.steps value = .ok steps →
      StepsCourse bench catches turn (some value) 1 steps start calls last halt →
      PatchedCourse turn value start calls last (policy.settle halt)

inductive ValueCourse (turn : Nat) (value : Int) :
    Standing σ → List (Call σ) → Standing σ → Option Halt → Prop where
  | unrendered (start : Standing σ) (fault : Fault) : request.config.replacement value = .error fault →
      ValueCourse turn value start [] start (some (.fault fault))
  | crashed (start : Standing σ) (line : Text) (fault : Fault) : request.config.replacement value = .ok line →
      (bench.patch (request.patchCall (some value) line) start.bench).answer = .error (.fault fault) →
      ValueCourse turn value start [.patch (bench.patchDone turn (request.patchCall (some value) line) start.bench)]
        (start.afterPatch bench catches (request.patchCall (some value) line)) (some (.fault fault))
  | unpatched (start : Standing σ) (line : Text) (failure : PatchFailure) :
      request.config.replacement value = .ok line →
      (bench.patch (request.patchCall (some value) line) start.bench).answer = .error (.failure failure) →
      ValueCourse turn value start [.patch (bench.patchDone turn (request.patchCall (some value) line) start.bench)]
        (start.afterPatch bench catches (request.patchCall (some value) line))
        (policy.give ⟨.patch failure, some value, none⟩)
  | patched (start : Standing σ) (line previous : Text) (calls : List (Call σ)) (last : Standing σ)
      (halt : Option Halt) : request.config.replacement value = .ok line →
      (bench.patch (request.patchCall (some value) line) start.bench).answer = .ok previous →
      PatchedCourse bench catches policy request turn value
        (start.afterPatch bench catches (request.patchCall (some value) line)) calls last halt →
      ValueCourse turn value start
        (.patch (bench.patchDone turn (request.patchCall (some value) line) start.bench) :: calls) last halt

inductive ValuesCourse : Nat → List Int → Standing σ → List (Call σ) → Standing σ → Option Halt → Prop where
  | done (turn : Nat) (start : Standing σ) : ValuesCourse turn [] start [] start none
  | noticed (turn : Nat) (value : Int) (rest : List Int) (start : Standing σ) (signal : Int) :
      start.flag = some signal →
      ValuesCourse turn (value :: rest) start [] start.asked (some (.error (.interrupted signal (some value) none)))
  | halted (turn : Nat) (value : Int) (rest : List Int) (start : Standing σ) (calls : List (Call σ))
      (last : Standing σ) (halt : Halt) : start.flag = none →
      ValueCourse bench catches policy request (turn + 1) value start calls last (some halt) →
      ValuesCourse turn (value :: rest) start calls last (some halt)
  | next (turn : Nat) (value : Int) (rest : List Int) (start : Standing σ) (calls later : List (Call σ))
      (middle last : Standing σ) (halt : Option Halt) : start.flag = none →
      ValueCourse bench catches policy request (turn + 1) value start calls middle none →
      ValuesCourse (turn + 1) rest middle later last halt →
      ValuesCourse turn (value :: rest) start (calls ++ later) last halt

inductive SweepCourse : Standing σ → List (Call σ) → Standing σ → Option Halt → Prop where
  | halted (start : Standing σ) (calls : List (Call σ)) (last : Standing σ) (halt : Halt) :
      StepsCourse bench catches 0 none 1 request.setup start calls last (some halt) →
      SweepCourse start calls last (some halt)
  | prepared (start : Standing σ) (calls later : List (Call σ)) (middle last : Standing σ) (halt : Option Halt) :
      StepsCourse bench catches 0 none 1 request.setup start calls middle none →
      ValuesCourse bench catches policy request 0 request.config.values middle later last halt →
      SweepCourse start (calls ++ later) last halt

-- What the last patch, which puts the first line back, makes of the ending.
def Ending.restored (ending : Ending) (answer : Except PatchStop Text) : Ending :=
  match answer, ending with
  | .error (.fault fault), _ => .crashed fault
  | .error (.failure failure), .completed _ => .failed ⟨.patch failure, none, none⟩ .empty
  | _, _ => ending

inductive RunCourse : Standing σ → List (Call σ) → σ → Ending → Prop where
  | told (start : Standing σ) (ending : Ending) : request.dryRun = true →
      (∀ error outcome, ending ≠ .failed error outcome) → RunCourse start [] start.bench ending
  | swept (start : Standing σ) (calls : List (Call σ)) (last : Standing σ) (halt : Option Halt) :
      request.dryRun = false → SweepCourse bench catches policy request start calls last halt →
      (request.restore = true → firstPrevious calls = none) →
      RunCourse start calls last.bench (.ofHalt ⟨resultsOf calls, recordedBy policy calls⟩ halt)
  | restored (start : Standing σ) (calls : List (Call σ)) (last : Standing σ) (halt : Option Halt) (line : Text)
      (turn : Nat) :
      request.dryRun = false → SweepCourse bench catches policy request start calls last halt →
      request.restore = true → firstPrevious calls = some line →
      RunCourse start (calls ++ [.patch (bench.patchDone turn (request.patchCall none line) last.bench)])
        (bench.patch (request.patchCall none line) last.bench).state
        ((Ending.ofHalt ⟨resultsOf calls, recordedBy policy calls⟩ halt).restored
          (bench.patch (request.patchCall none line) last.bench).answer)

end Rules

-- The failure with which the steps of a value end, if the sweep can do without the value.
def failuresOf (value : Option Int) (halt : Option Halt) : List SweepFailure :=
  match value, halt with
  | some value, some (.error error) => if error.isOfStep then [⟨some value, error.step, error⟩] else []
  | _, _ => []

section Failures

variable {σ : Type} {bench : Bench σ} {catches : Int → Bool} {turn : Nat} {value : Option Int} {index : Int}
  {calls : List (Call σ)} {start last : Standing σ} {halt : Option Halt}

theorem step_failures (step : Step) (course : StepCourse bench catches turn value index step start calls last halt) :
    calls.filterMap Call.failure? = failuresOf value halt := by
  cases course with
  | noticed signal flag => cases value <;> rfl
  | nameless fault quiet named => cases value <;> rfl
  | stopped stop quiet told =>
      cases value with
      | none => simp [Call.failure?, Bench.spawnDone, failuresOf]
      | some value => cases stop <;> simp [Call.failure?, Bench.spawnDone, failuresOf, told, SpawnStop.halt,
          SweepError.isOfStep, SweepError.interrupted, SweepError.located]
  | failed measured quiet told bad =>
      cases value <;> simp [Call.failure?, Bench.spawnDone, failuresOf, told, bad, SweepError.isOfStep,
        SweepError.stepFailed]
  | passed measured quiet told zero => cases value <;> simp [Call.failure?, Bench.spawnDone, failuresOf, told, zero]

theorem steps_failures (steps : List Step)
    (course : StepsCourse bench catches turn value index steps start calls last halt) :
    calls.filterMap Call.failure? = failuresOf value halt := by
  induction course with
  | done index start => cases value <;> rfl
  | halted index step rest start calls last halt first => exact step_failures step first
  | next index step rest start calls later middle last halt first _ ih =>
      have none : calls.filterMap Call.failure? = [] := by
        rw [step_failures step first]
        cases value <;> rfl
      rw [List.filterMap_append, none, ih, List.nil_append]

end Failures

def Request.stepsOf (request : Request) (value : Option Int) : Except Fault (List Step) :=
  match value with
  | none => .ok request.setup
  | some value => request.steps value

-- A process belongs to the value whose turn it is, or to the setup before the first turn, and is the step of it that
-- its index names.
structure SpawnDone.IsPlaced {σ : Type} (done : SpawnDone σ) (request : Request) : Prop where
  value : match done.value with
    | none => done.turn = 0
    | some value => ∃ earlier, done.turn = earlier + 1 ∧ request.config.values[earlier]? = some value
  step : ∃ steps position, request.stepsOf done.value = .ok steps ∧ steps[position]? = some done.step ∧
    done.index = 1 + (position : Nat)

structure PatchDone.IsPlaced {σ : Type} (done : PatchDone σ) (bench : Bench σ) (request : Request) : Prop where
  value : ∃ value line earlier, done.call = request.patchCall (some value) line ∧
    request.config.replacement value = .ok line ∧ done.turn = earlier + 1 ∧ request.config.values[earlier]? = some value
  answer : done.answer = (bench.patch done.call done.before).answer

def Call.IsPlaced {σ : Type} (bench : Bench σ) (request : Request) : Call σ → Prop
  | .patch done => done.IsPlaced bench request
  | .spawn done => done.IsPlaced request

section Places

variable {σ : Type} {bench : Bench σ} {catches : Int → Bool} {turn : Nat} {value : Option Int} {index : Int}
  {calls : List (Call σ)} {start last : Standing σ} {halt : Option Halt} {policy : Policy} {request : Request}

theorem step_calls (step : Step) (course : StepCourse bench catches turn value index step start calls last halt) :
    (calls = [] ∧ last.bench = start.bench) ∨
      (calls = [.spawn (bench.spawnDone catches turn value index step start.bench)] ∧
        last.bench = (bench.spawn step start.bench).state) := by
  cases course with
  | noticed signal flag => exact .inl ⟨rfl, rfl⟩
  | nameless fault quiet named => exact .inl ⟨rfl, rfl⟩
  | stopped stop quiet told => exact .inr ⟨rfl, rfl⟩
  | failed measured quiet told bad => exact .inr ⟨rfl, rfl⟩
  | passed measured quiet told zero => exact .inr ⟨rfl, rfl⟩

theorem steps_placed (steps : List Step)
    (course : StepsCourse bench catches turn value index steps start calls last halt) (call : Call σ)
    (made : call ∈ calls) :
    ∃ done position, call = .spawn done ∧ done.turn = turn ∧ done.value = value ∧
      steps[position]? = some done.step ∧ done.index = index + (position : Nat) := by
  induction course with
  | done index start => cases made
  | halted index step rest start calls last halt first =>
      rcases step_calls step first with ⟨rfl, _⟩ | ⟨rfl, _⟩
      · cases made
      · obtain rfl := List.mem_singleton.mp made
        exact ⟨_, 0, rfl, rfl, rfl, rfl, (Int.add_zero index).symm⟩
  | next index step rest start calls later middle last halt first _ ih =>
      rcases List.mem_append.mp made with here | there
      · rcases step_calls step first with ⟨rfl, _⟩ | ⟨rfl, _⟩
        · cases here
        · obtain rfl := List.mem_singleton.mp here
          exact ⟨_, 0, rfl, rfl, rfl, rfl, (Int.add_zero index).symm⟩
      · obtain ⟨done, position, rfl, sameTurn, sameValue, found, counted⟩ := ih there
        refine ⟨done, position + 1, rfl, sameTurn, sameValue, found, ?_⟩
        rw [counted]
        omega

theorem patched_placed (taken : Int)
    (course : PatchedCourse bench catches policy request turn taken start calls last halt) (call : Call σ)
    (made : call ∈ calls) :
    ∃ done steps position, call = .spawn done ∧ done.turn = turn ∧ done.value = some taken ∧
      request.steps taken = .ok steps ∧ steps[position]? = some done.step ∧ done.index = 1 + (position : Nat) := by
  cases course with
  | noticed signal flag => cases made
  | stepless fault quiet factory => cases made
  | ran steps calls last halt quiet factory ran =>
      obtain ⟨done, position, same, sameTurn, sameValue, found, counted⟩ := steps_placed steps ran call made
      exact ⟨done, steps, position, same, sameTurn, sameValue, factory, found, counted⟩

theorem value_placed (taken : Int) (earlier : Nat) (listed : request.config.values[earlier]? = some taken)
    (course : ValueCourse bench catches policy request (earlier + 1) taken start calls last halt) (call : Call σ)
    (made : call ∈ calls) : call.IsPlaced bench request := by
  have patch (line : Text) (rendered : request.config.replacement taken = .ok line) :
      Call.IsPlaced bench request
        (.patch (bench.patchDone (earlier + 1) (request.patchCall (some taken) line) start.bench)) :=
    ⟨⟨taken, line, earlier, rfl, rendered, rfl, listed⟩, rfl⟩
  cases course with
  | unrendered fault rendered => cases made
  | crashed line fault rendered answer =>
      obtain rfl := List.mem_singleton.mp made
      exact patch line rendered
  | unpatched line failure rendered answer =>
      obtain rfl := List.mem_singleton.mp made
      exact patch line rendered
  | patched line previous later last halt rendered answer patched =>
      rcases List.mem_cons.mp made with here | there
      · subst here
        exact patch line rendered
      · obtain ⟨done, steps, position, rfl, sameTurn, sameValue, factory, found, counted⟩ :=
          patched_placed taken patched call there
        refine ⟨?_, steps, position, ?_, found, counted⟩
        · rw [sameValue]
          exact ⟨earlier, sameTurn, listed⟩
        · rw [sameValue]
          exact factory

theorem values_placed (values before : List Int) (whole : request.config.values = before ++ values)
    (length : before.length = turn)
    (course : ValuesCourse bench catches policy request turn values start calls last halt) (call : Call σ)
    (made : call ∈ calls) : call.IsPlaced bench request := by
  induction course generalizing before with
  | done turn start => cases made
  | noticed turn value rest start signal flag => cases made
  | halted turn value rest start calls last halt quiet first =>
      have listed : request.config.values[turn]? = some value := by
        rw [whole, ← length, List.getElem?_append_right (Nat.le_refl _), Nat.sub_self, List.getElem?_cons_zero]
      exact value_placed value turn listed first call made
  | next turn value rest start calls later middle last halt quiet first _ ih =>
      rcases List.mem_append.mp made with here | there
      · have listed : request.config.values[turn]? = some value := by
          rw [whole, ← length, List.getElem?_append_right (Nat.le_refl _), Nat.sub_self, List.getElem?_cons_zero]
        exact value_placed value turn listed first call here
      · refine ih (before ++ [value]) ?_ ?_ there
        · rw [whole, List.append_assoc, List.singleton_append]
        · rw [List.length_append, length, List.length_singleton]

theorem setup_placed (course : StepsCourse bench catches 0 none 1 request.setup start calls last halt)
    (call : Call σ) (made : call ∈ calls) : call.IsPlaced bench request := by
  obtain ⟨done, position, rfl, sameTurn, sameValue, found, counted⟩ := steps_placed request.setup course call made
  refine ⟨?_, request.setup, position, ?_, found, counted⟩
  · rw [sameValue]
    exact sameTurn
  · rw [sameValue]
    rfl

theorem sweep_placed (course : SweepCourse bench catches policy request start calls last halt) (call : Call σ)
    (made : call ∈ calls) : call.IsPlaced bench request := by
  cases course with
  | halted calls last halt setup => exact setup_placed setup call made
  | prepared early later middle last halt setup values =>
      rcases List.mem_append.mp made with here | there
      · exact setup_placed setup call here
      · exact values_placed request.config.values [] rfl rfl values call there

theorem run_placed (final : σ) (ending : Ending)
    (course : RunCourse bench catches policy request start calls final ending) (call : Call σ)
    (made : call ∈ calls) : call.IsPlaced bench request ∨ call.isRestore = true := by
  cases course with
  | told ending dry unfailing => cases made
  | swept calls last halt real swept unrestored => exact .inl (sweep_placed swept call made)
  | restored early last halt line turn real swept restore found =>
      rcases List.mem_append.mp made with here | there
      · exact .inl (sweep_placed swept call here)
      · obtain rfl := List.mem_singleton.mp there
        exact .inr rfl

end Places

structure Bench.Keeps {σ : Type} (bench : Bench σ) (inv : σ → Prop) : Prop where
  patch : ∀ call before, inv before → inv (bench.patch call before).state
  spawn : ∀ step before, inv before → inv (bench.spawn step before).state

section Keeping

variable {σ : Type} {bench : Bench σ} {catches : Int → Bool} {turn : Nat} {value : Option Int} {index : Int}
  {calls : List (Call σ)} {start last : Standing σ} {halt : Option Halt} {policy : Policy} {request : Request}
  {inv : σ → Prop}

theorem keeps_append (early later : List (Call σ)) (first : ∀ call ∈ early, inv call.before)
    (second : ∀ call ∈ later, inv call.before) : ∀ call ∈ early ++ later, inv call.before :=
  List.forall_mem_append.mpr ⟨first, second⟩

theorem steps_keep (keeps : bench.Keeps inv) (steps : List Step)
    (course : StepsCourse bench catches turn value index steps start calls last halt) (holds : inv start.bench) :
    inv last.bench ∧ ∀ call ∈ calls, inv call.before := by
  have single (index : Int) (step : Step) (start last : Standing σ) (calls : List (Call σ)) (halt : Option Halt)
      (course : StepCourse bench catches turn value index step start calls last halt) (holds : inv start.bench) :
      inv last.bench ∧ ∀ call ∈ calls, inv call.before := by
    rcases step_calls step course with ⟨rfl, same⟩ | ⟨rfl, same⟩
    · exact ⟨same ▸ holds, List.forall_mem_nil _⟩
    · refine ⟨same ▸ keeps.spawn step start.bench holds, ?_⟩
      intro call made
      obtain rfl := List.mem_singleton.mp made
      exact holds
  induction course with
  | done index start => exact ⟨holds, List.forall_mem_nil _⟩
  | halted index step rest start calls last halt ran => exact single index step start last calls _ ran holds
  | next index step rest start calls later middle last halt ran _ ih =>
      obtain ⟨holdsHere, befores⟩ := single index step start middle calls _ ran holds
      obtain ⟨holdsThere, beforesThere⟩ := ih holdsHere
      exact ⟨holdsThere, keeps_append calls later befores beforesThere⟩

theorem value_keeps (keeps : bench.Keeps inv) (taken : Int)
    (course : ValueCourse bench catches policy request turn taken start calls last halt) (holds : inv start.bench) :
    inv last.bench ∧ ∀ call ∈ calls, inv call.before := by
  cases course with
  | unrendered fault rendered => exact ⟨holds, List.forall_mem_nil _⟩
  | crashed line fault rendered answer =>
      refine ⟨keeps.patch _ _ holds, ?_⟩
      intro call made
      obtain rfl := List.mem_singleton.mp made
      exact holds
  | unpatched line failure rendered answer =>
      refine ⟨keeps.patch _ _ holds, ?_⟩
      intro call made
      obtain rfl := List.mem_singleton.mp made
      exact holds
  | patched line previous later last halt rendered answer patched =>
      have after := keeps.patch (request.patchCall (some taken) line) start.bench holds
      have rest : inv last.bench ∧ ∀ call ∈ later, inv call.before := by
        cases patched with
        | noticed signal flag => exact ⟨after, List.forall_mem_nil _⟩
        | stepless fault quiet factory => exact ⟨after, List.forall_mem_nil _⟩
        | ran steps calls last halt quiet factory ran => exact steps_keep keeps steps ran after
      exact ⟨rest.1, List.forall_mem_cons.mpr ⟨holds, rest.2⟩⟩

theorem values_keep (keeps : bench.Keeps inv) (values : List Int)
    (course : ValuesCourse bench catches policy request turn values start calls last halt) (holds : inv start.bench) :
    inv last.bench ∧ ∀ call ∈ calls, inv call.before := by
  induction course with
  | done turn start => exact ⟨holds, List.forall_mem_nil _⟩
  | noticed turn value rest start signal flag => exact ⟨holds, List.forall_mem_nil _⟩
  | halted turn value rest start calls last halt quiet first => exact value_keeps keeps value first holds
  | next turn value rest start calls later middle last halt quiet first _ ih =>
      obtain ⟨holdsHere, befores⟩ := value_keeps keeps value first holds
      obtain ⟨holdsThere, beforesThere⟩ := ih holdsHere
      exact ⟨holdsThere, keeps_append calls later befores beforesThere⟩

theorem sweep_keeps (keeps : bench.Keeps inv)
    (course : SweepCourse bench catches policy request start calls last halt) (holds : inv start.bench) :
    inv last.bench ∧ ∀ call ∈ calls, inv call.before := by
  cases course with
  | halted calls last halt setup => exact steps_keep keeps request.setup setup holds
  | prepared early later middle last halt setup values =>
      obtain ⟨holdsHere, befores⟩ := steps_keep keeps request.setup setup holds
      obtain ⟨holdsThere, beforesThere⟩ := values_keep keeps request.config.values values holdsHere
      exact ⟨holdsThere, keeps_append early later befores beforesThere⟩

theorem run_keeps (keeps : bench.Keeps inv) (final : σ) (ending : Ending)
    (course : RunCourse bench catches policy request start calls final ending) (holds : inv start.bench) :
    inv final ∧ ∀ call ∈ calls, inv call.before := by
  cases course with
  | told ending dry unfailing => exact ⟨holds, List.forall_mem_nil _⟩
  | swept calls last halt real swept unrestored => exact sweep_keeps keeps swept holds
  | restored early last halt line turn real swept restore found =>
      obtain ⟨holdsHere, befores⟩ := sweep_keeps keeps swept holds
      refine ⟨keeps.patch _ _ holdsHere, keeps_append early _ befores ?_⟩
      intro call made
      obtain rfl := List.mem_singleton.mp made
      exact holdsHere

end Keeping

def Call.fault? {σ : Type} : Call σ → Option Fault
  | .patch done =>
      match done.answer with
      | .error (.fault fault) => some fault
      | _ => none
  | .spawn done =>
      match done.answer with
      | .error (.fault fault) => some fault
      | _ => none

-- Where a fault comes from that a sweep does not account for: a line or commands that cannot be made up, or the answer
-- to a call.
inductive Request.Strays {σ : Type} (request : Request) (calls : List (Call σ)) (fault : Fault) : Prop where
  | unrendered (value : Int) : value ∈ request.config.values → request.config.replacement value = .error fault →
      request.Strays calls fault
  | stepless (value : Int) : value ∈ request.config.values → request.steps value = .error fault →
      request.Strays calls fault
  | nameless (value : Option Int) (index : Int) (steps : List Step) (step : Step) :
      (∀ taken, value = some taken → taken ∈ request.config.values) → request.stepsOf value = .ok steps →
      step ∈ steps → stepMessage value index step = .error fault → request.Strays calls fault
  | answered (call : Call σ) : call ∈ calls → call.fault? = some fault → request.Strays calls fault

theorem labelled_message (value : Option Int) (index : Int) (step : Step) (fault : Fault)
    (labelled : step.label.isOk = true) : stepMessage value index step ≠ .error fault := by
  intro named
  rw [stepMessage] at named
  cases label : step.label with
  | error other =>
      rw [label] at labelled
      cases labelled
  | ok text =>
      rw [label] at named
      cases named

section Crashes

variable {σ : Type} {bench : Bench σ} {catches : Int → Bool} {turn : Nat} {value : Option Int} {index : Int}
  {calls : List (Call σ)} {start last : Standing σ} {halt : Option Halt} {policy : Policy} {request : Request}
  {fault : Fault}

theorem strays_within (calls all : List (Call σ)) (within : ∀ call ∈ calls, call ∈ all)
    (strays : request.Strays calls fault) : request.Strays all fault := by
  cases strays with
  | unrendered value listed rendered => exact .unrendered value listed rendered
  | stepless value listed factory => exact .stepless value listed factory
  | nameless value index steps step listed factory member named =>
      exact .nameless value index steps step listed factory member named
  | answered call made answer => exact .answered call (within call made) answer

theorem step_strays (steps : List Step) (step : Step)
    (listed : ∀ taken, value = some taken → taken ∈ request.config.values)
    (factory : request.stepsOf value = .ok steps) (member : step ∈ steps)
    (course : StepCourse bench catches turn value index step start calls last (some (.fault fault))) :
    request.Strays calls fault := by
  generalize ended : some (Halt.fault fault) = halt at course
  cases course with
  | noticed signal flag => cases ended
  | nameless other quiet named =>
      cases ended
      exact .nameless value index steps step listed factory member named
  | stopped stop quiet told =>
      cases stop with
      | failure cause => cases ended
      | interrupt signal => cases ended
      | fault other =>
          cases ended
          refine .answered _ (List.mem_singleton_self _) ?_
          simp only [Call.fault?, Bench.spawnDone, told]
  | failed measured quiet told bad => cases ended
  | passed measured quiet told zero => cases ended

theorem steps_stray (steps whole : List Step) (listed : ∀ taken, value = some taken → taken ∈ request.config.values)
    (factory : request.stepsOf value = .ok whole) (within : ∀ step ∈ steps, step ∈ whole)
    (course : StepsCourse bench catches turn value index steps start calls last halt)
    (ended : halt = some (.fault fault)) : request.Strays calls fault := by
  induction course with
  | done index start => cases ended
  | halted index step rest start calls last halt first =>
      cases ended
      exact step_strays whole step listed factory (within step (List.mem_cons_self ..)) first
  | next index step rest start calls later middle last halt first _ ih =>
      have strays := ih (fun other there => within other (List.mem_cons_of_mem _ there)) ended
      exact strays_within later (calls ++ later) (fun _ => List.mem_append_right calls) strays

theorem value_strays (taken : Int) (listed : taken ∈ request.config.values)
    (course : ValueCourse bench catches policy request turn taken start calls last halt)
    (ended : halt = some (.fault fault)) : request.Strays calls fault := by
  cases course with
  | unrendered other rendered =>
      cases ended
      exact .unrendered taken listed rendered
  | crashed line other rendered answer =>
      cases ended
      refine .answered _ (List.mem_singleton_self _) ?_
      simp only [Call.fault?, Bench.patchDone, answer]
  | unpatched line failure rendered answer => cases policy <;> cases ended
  | patched line previous later last halt rendered answer patched =>
      refine strays_within later _ (fun _ => List.mem_cons_of_mem _) ?_
      cases patched with
      | noticed signal flag => cases ended
      | stepless other quiet factory =>
          cases ended
          exact .stepless taken listed factory
      | ran steps calls last halt quiet factory ran =>
          have only : ∀ other, some taken = some other → other ∈ request.config.values := by
            rintro other same
            cases same
            exact listed
          refine steps_stray steps steps only factory (fun _ => id) ran ?_
          rcases halt with _ | error | other
          · exact ended
          · rw [Policy.settle] at ended
            split at ended
            · cases policy <;> cases ended
            · exact ended
          · exact ended

theorem values_stray (values : List Int) (within : ∀ value ∈ values, value ∈ request.config.values)
    (course : ValuesCourse bench catches policy request turn values start calls last halt)
    (ended : halt = some (.fault fault)) : request.Strays calls fault := by
  induction course with
  | done turn start => cases ended
  | noticed turn value rest start signal flag => cases ended
  | halted turn value rest start calls last halt quiet first =>
      exact value_strays value (within value (List.mem_cons_self ..)) first ended
  | next turn value rest start calls later middle last halt quiet first _ ih =>
      have strays := ih (fun other there => within other (List.mem_cons_of_mem _ there)) ended
      exact strays_within later (calls ++ later) (fun _ => List.mem_append_right calls) strays

theorem sweep_strays (course : SweepCourse bench catches policy request start calls last halt)
    (ended : halt = some (.fault fault)) : request.Strays calls fault := by
  have listed : ∀ taken, none = some taken → taken ∈ request.config.values := by
    rintro taken same
    cases same
  cases course with
  | halted calls last halt setup => exact steps_stray request.setup request.setup listed rfl (fun _ => id) setup ended
  | prepared early later middle last halt setup values =>
      have strays := values_stray request.config.values (fun _ => id) values ended
      exact strays_within later (early ++ later) (fun _ => List.mem_append_right early) strays

theorem of_halt_crashed (outcome : Outcome) (halt : Option Halt)
    (crashed : Ending.ofHalt outcome halt = .crashed fault) : halt = some (.fault fault) := by
  rcases halt with _ | error | other <;> cases crashed
  rfl

theorem restored_crashed (ending : Ending) (answer : Except PatchStop Text)
    (crashed : ending.restored answer = .crashed fault) :
    ending = .crashed fault ∨ answer = .error (.fault fault) := by
  rcases answer with (failure | other) | previous
  · cases ending <;> cases crashed
    exact .inl rfl
  · cases crashed
    exact .inr rfl
  · exact .inl crashed

theorem run_strays (final : σ) (ending : Ending) (real : request.dryRun = false)
    (course : RunCourse bench catches policy request start calls final ending) (crashed : ending = .crashed fault) :
    request.Strays calls fault := by
  cases course with
  | told ending dry unfailing => exact absurd (dry.symm.trans real) Bool.true_eq_false.mp
  | swept calls last halt real swept unrestored => exact sweep_strays swept (of_halt_crashed _ halt crashed)
  | restored early last halt line turn real swept restore found =>
      rcases restored_crashed _ _ crashed with before | answer
      · have strays := sweep_strays swept (of_halt_crashed _ halt before)
        exact strays_within early _ (fun _ => List.mem_append_left _) strays
      · refine .answered _ (List.mem_append_right early (List.mem_singleton_self _)) ?_
        simp only [Call.fault?, Bench.patchDone, answer]

end Crashes

end ConstantSweep.Sweep

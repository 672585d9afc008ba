import ConstantSweep.Proofs.Benches

set_option autoImplicit false

namespace ConstantSweep.Sweep

open ConstantSweep.Signal

def SweepError.isInterrupt (error : SweepError) : Bool :=
  match error.cause with
  | .interrupt _ _ _ => true
  | _ => false

def Halt.isInterrupt : Halt → Bool
  | .error cause => cause.isInterrupt
  | .fault _ => false

def Ending.isInterrupt : Ending → Bool
  | .failed error _ => error.isInterrupt
  | _ => false

def Policy.goesOn : Policy → Bool
  | .failFast => false
  | .goOn => true

def Request.stepCount (request : Request) (value : Option Int) : Nat :=
  match request.stepsOf value with
  | .ok steps => steps.length
  | .error _ => 0

theorem step_count_made (request : Request) (value : Option Int) (steps : List Step)
    (made : request.stepsOf value = .ok steps) : request.stepCount value = steps.length := by
  rw [Request.stepCount, made]

theorem steps_counted (request : Request) (value : Option Int) (steps : List Step)
    (made : request.stepsOf value = .ok steps) : 1 + (steps.length : Int) = request.stepCount value + 1 := by
  rw [step_count_made request value steps made, Int.add_comm]

namespace Call

variable {σ : Type}

def hears (catches : Int → Bool) (call : Call σ) : Bool := call.signals.any catches

def isInterrupt : Call σ → Bool
  | .patch _ => false
  | .spawn done =>
      match done.answer with
      | .error (.interrupt _) => true
      | _ => false

-- A signal arrived during the call, or was the reason for giving it up.
def stirs (catches : Int → Bool) (call : Call σ) : Bool := call.hears catches || call.isInterrupt

-- The run asks for signals again before it is done with the value, or has just been told of one.
def isChecked (request : Request) : Call σ → Bool
  | .patch done =>
      match done.answer with
      | .ok _ => done.call.value.isSome
      | .error _ => false
  | .spawn done =>
      match done.answer with
      | .ok measured => measured.exitCode == 0 && decide (done.index < request.stepCount done.value)
      | .error (.interrupt _) => true
      | .error _ => false

-- The call does not keep the sweep from going on to the next value.
def isSurvived (policy : Policy) : Call σ → Bool
  | .patch done =>
      match done.answer with
      | .ok _ => done.call.value.isSome
      | .error (.failure _) => done.call.value.isSome && policy.goesOn
      | .error (.fault _) => false
  | .spawn done =>
      match done.answer with
      | .ok measured => measured.exitCode == 0 || (done.value.isSome && policy.goesOn)
      | .error (.failure _) => done.value.isSome && policy.goesOn
      | .error _ => false

def isFollowed (policy : Policy) (request : Request) (call : Call σ) : Bool :=
  call.isChecked request || (call.isSurvived policy && decide (call.turn < request.config.values.length))

-- The line could not be put back for a reason that the sweep does not account for.
def crashesRestore : Call σ → Bool
  | .patch done =>
      match done.answer with
      | .error (.fault _) => done.call.value.isNone
      | _ => false
  | .spawn _ => false

end Call

theorem hears_iff {σ : Type} (catches : Int → Bool) (call : Call σ) :
    call.hears catches = true ↔ caught catches call.signals ≠ none := by
  rw [Ne, caught_none_iff, Call.hears, ← Bool.not_eq_false, List.any_eq_false]
  simp only [Bool.not_eq_true]

theorem stirs_iff {σ : Type} (catches : Int → Bool) (call : Call σ) :
    call.stirs catches = true ↔ call.hears catches = true ∨ call.isInterrupt = true := by
  rw [Call.stirs, Bool.or_eq_true]

def interrupts (halt : Option Halt) : Bool := halt.any Halt.isInterrupt

theorem of_step_no_interrupt (error : SweepError) (ofStep : error.isOfStep = true) : error.isInterrupt = false := by
  rw [SweepError.isOfStep] at ofStep
  rw [SweepError.isInterrupt]
  cases cause : error.cause with
  | interrupt signal value step =>
      rw [cause] at ofStep
      cases ofStep
  | _ => rfl

theorem give_interrupts (policy : Policy) (error : SweepError) (plain : error.isInterrupt = false) :
    interrupts (policy.give error) = false ∧ (policy.give error).isNone = policy.goesOn := by
  cases policy with
  | failFast => exact ⟨plain, rfl⟩
  | goOn => exact ⟨rfl, rfl⟩

theorem settle_interrupts (policy : Policy) (halt : Option Halt) :
    interrupts (policy.settle halt) = interrupts halt := by
  cases halt with
  | none => rfl
  | some halt =>
      cases halt with
      | fault fault => rfl
      | error error =>
          rw [Policy.settle]
          cases ofStep : error.isOfStep with
          | false => rfl
          | true =>
              have plain := of_step_no_interrupt error ofStep
              exact (give_interrupts policy error plain).1.trans plain.symm

section Steps

variable {σ : Type} {bench : Bench σ} {catches : Int → Bool} {turn : Nat} {value : Option Int} {index : Int}
  {calls : List (Call σ)} {start last : Standing σ} {halt : Option Halt} {policy : Policy} {request : Request}

theorem spawn_heard (step : Step) (before : σ) (answer : Except SpawnStop Measured)
    (stirs : Call.stirs catches (.spawn (bench.spawnDone catches turn value index step before)) = true)
    (told : bench.told catches step before = answer) (calm : ∀ signal, answer ≠ .error (.interrupt signal)) :
    bench.pending catches step before ≠ none := by
  have untold : ∀ signal, bench.told catches step before ≠ .error (.interrupt signal) := by
    rw [told]
    exact calm
  have heard := ((stirs_iff catches _).mp stirs).resolve_right fun interrupted => by
    rw [Call.isInterrupt] at interrupted
    split at interrupted
    · rename_i signal told
      exact untold signal told
    · cases interrupted
  have arrived : caught catches (bench.spawn step before).signals ≠ none := (hears_iff catches _).mp heard
  rw [Bench.told] at untold
  rw [Bench.pending]
  cases watches : bench.watch with
  | absent => exact arrived
  | present opensBlock =>
      rw [watches] at untold
      cases answer : (bench.spawn step before).answer with
      | error stop => exact arrived
      | ok measured =>
          rw [answer] at untold
          cases found : caught catches (bench.spawn step before).signals with
          | none => exact absurd found arrived
          | some signal =>
              rw [found] at untold
              exact absurd rfl (untold signal)

theorem step_flagged (step : Step) (flagged : start.flag ≠ none)
    (course : StepCourse bench catches turn value index step start calls last halt) :
    calls = [] ∧ interrupts halt = true := by
  cases course with
  | noticed signal flag => exact ⟨rfl, rfl⟩
  | nameless fault quiet named => exact absurd quiet flagged
  | stopped stop quiet told => exact absurd quiet flagged
  | failed measured quiet told bad => exact absurd quiet flagged
  | passed measured quiet told zero => exact absurd quiet flagged

theorem steps_flagged (steps : List Step) (flagged : start.flag ≠ none)
    (course : StepsCourse bench catches turn value index steps start calls last halt) :
    calls = [] ∧ interrupts halt = !steps.isEmpty ∧ (steps = [] → last = start ∧ halt = none) := by
  cases course with
  | done => exact ⟨rfl, rfl, fun _ => ⟨rfl, rfl⟩⟩
  | halted _ step rest _ calls last halt first =>
      obtain ⟨nothing, interrupted⟩ := step_flagged step flagged first
      exact ⟨nothing, interrupted, fun empty => absurd empty (List.cons_ne_nil _ _)⟩
  | next _ step rest _ calls later middle last halt first ran =>
      cases (step_flagged step flagged first).2

-- How the steps end when a signal arrived during one of them. The steps of a value that fail end the value only.
structure StepsHeard (policy : Policy) (request : Request) (call : Call σ) (value : Option Int) (last : Standing σ)
    (halt : Option Halt) : Prop where
  checked : interrupts halt = call.isChecked request
  flag : call.isChecked request = false → last.flag ≠ none
  survived : call.isChecked request = false → call.isSurvived policy = match value with
    | none => halt.isNone
    | some _ => (policy.settle halt).isNone

theorem steps_heard_checked (call : Call σ) (checked : call.isChecked request = true)
    (interrupted : interrupts halt = true) :
    StepsHeard policy request call value last halt :=
  ⟨interrupted.trans checked.symm, fun unchecked => Bool.noConfusion (checked.symm.trans unchecked),
    fun unchecked => Bool.noConfusion (checked.symm.trans unchecked)⟩

theorem step_heard (step : Step) (policy : Policy) (halt : Halt)
    (course : StepCourse bench catches turn value index step start calls last (some halt)) (call : Call σ)
    (made : call ∈ calls) (stirs : call.stirs catches = true) :
    StepsHeard policy request call value last (some halt) := by
  cases course with
  | noticed signal flag => cases made
  | nameless fault quiet named => cases made
  | stopped stop quiet told =>
      obtain rfl := List.mem_singleton.mp made
      cases stop with
      | interrupt signal =>
          have checked : Call.isChecked request
              (.spawn (bench.spawnDone catches turn value index step start.bench)) = true := by
            simp only [Call.isChecked, Bench.spawnDone, told]
          exact steps_heard_checked _ checked rfl
      | failure cause =>
          have flagged := spawn_heard step start.bench _ stirs told (by simp)
          refine ⟨?_, fun _ => flagged, fun _ => ?_⟩
          · simp only [Call.isChecked, Bench.spawnDone, told]
            rfl
          · simp only [Call.isSurvived, Bench.spawnDone, told]
            cases value with
            | none => rfl
            | some value => exact (give_interrupts policy _ rfl).2.symm
      | fault fault =>
          have flagged := spawn_heard step start.bench _ stirs told (by simp)
          refine ⟨?_, fun _ => flagged, fun _ => ?_⟩
          · simp only [Call.isChecked, Bench.spawnDone, told]
            rfl
          · simp only [Call.isSurvived, Bench.spawnDone, told]
            cases value <;> rfl
  | failed measured quiet told bad =>
      obtain rfl := List.mem_singleton.mp made
      have flagged := spawn_heard step start.bench _ stirs told (by simp)
      have nonzero : (measured.exitCode == 0) = false := beq_false_of_ne bad
      refine ⟨?_, fun _ => flagged, fun _ => ?_⟩
      · simp only [Call.isChecked, Bench.spawnDone, told, nonzero]
        rfl
      · simp only [Call.isSurvived, Bench.spawnDone, told, nonzero]
        cases value with
        | none => rfl
        | some value => exact (give_interrupts policy _ rfl).2.symm

theorem steps_heard (policy : Policy) (steps : List Step) (counted : index + steps.length = request.stepCount value + 1)
    (course : StepsCourse bench catches turn value index steps start calls last halt) (call : Call σ)
    (made : call ∈ calls) (stirs : call.stirs catches = true) : StepsHeard policy request call value last halt := by
  induction course with
  | done index start => cases made
  | halted index step rest start calls last halt first => exact step_heard step policy halt first call made stirs
  | next index step rest start calls later middle last halt first ran ih =>
      rcases List.mem_append.mp made with here | there
      · cases first with
        | passed measured quiet told zero =>
            obtain rfl := List.mem_singleton.mp here
            have flagged := spawn_heard step start.bench _ stirs told (by simp)
            obtain ⟨_, interrupted, still⟩ := steps_flagged rest flagged ran
            have succeeded : (measured.exitCode == 0) = true := beq_iff_eq.mpr zero
            have checked : Call.isChecked request (.spawn (bench.spawnDone catches turn value index step start.bench)) =
                !rest.isEmpty := by
              simp only [Call.isChecked, Bench.spawnDone, told, succeeded, Bool.true_and]
              cases rest with
              | nil =>
                  rw [List.length_singleton] at counted
                  exact decide_eq_false (by omega)
              | cons other rest =>
                  rw [List.length_cons, List.length_cons] at counted
                  exact decide_eq_true (by omega)
            refine ⟨interrupted.trans checked.symm, ?_, ?_⟩
            · intro unchecked
              rw [checked, Bool.not_eq_false', List.isEmpty_iff] at unchecked
              rw [(still unchecked).1]
              exact flagged
            · intro unchecked
              rw [checked, Bool.not_eq_false', List.isEmpty_iff] at unchecked
              rw [(still unchecked).2]
              simp only [Call.isSurvived, Bench.spawnDone, told, succeeded, Bool.true_or]
              cases value <;> rfl
      · refine ih ?_ there
        rw [← counted, List.length_cons]
        omega

theorem values_flagged (values : List Int) (flagged : start.flag ≠ none)
    (course : ValuesCourse bench catches policy request turn values start calls last halt) :
    calls = [] ∧ interrupts halt = !values.isEmpty := by
  cases course with
  | done => exact ⟨rfl, rfl⟩
  | noticed _ value rest _ signal flag => exact ⟨rfl, rfl⟩
  | halted _ value rest _ calls last halt quiet ran => exact absurd quiet flagged
  | next _ value rest _ calls later middle last halt quiet ran later => exact absurd quiet flagged

structure ValueHeard (policy : Policy) (request : Request) (call : Call σ) (turn : Nat) (last : Standing σ)
    (halt : Option Halt) : Prop where
  turn : call.turn = turn
  checked : interrupts halt = call.isChecked request
  flag : call.isChecked request = false → last.flag ≠ none
  survived : call.isChecked request = false → call.isSurvived policy = halt.isNone

theorem patch_heard (call : PatchCall)
    (stirs : Call.stirs catches (.patch (bench.patchDone turn call start.bench)) = true) :
    (start.afterPatch bench catches call).flag ≠ none := by
  have heard := ((stirs_iff catches _).mp stirs).resolve_right Bool.false_ne_true
  have arrived : caught catches (bench.patch call start.bench).signals ≠ none := (hears_iff catches _).mp heard
  rw [Standing.afterPatch]
  cases found : caught catches (bench.patch call start.bench).signals with
  | none => exact absurd found arrived
  | some signal => exact Option.some_ne_none signal

theorem patched_flagged (taken : Int) (flagged : start.flag ≠ none)
    (course : PatchedCourse bench catches policy request turn taken start calls last halt) :
    calls = [] ∧ interrupts halt = true := by
  cases course with
  | noticed signal flag => exact ⟨rfl, rfl⟩
  | stepless fault quiet factory => exact absurd quiet flagged
  | ran steps calls last halt quiet factory ran => exact absurd quiet flagged

theorem patched_heard (taken : Int) (course : PatchedCourse bench catches policy request turn taken start calls last halt)
    (call : Call σ) (made : call ∈ calls) (stirs : call.stirs catches = true) :
    ValueHeard policy request call turn last halt := by
  cases course with
  | noticed signal flag => cases made
  | stepless fault quiet factory => cases made
  | ran steps calls last halt quiet factory ran =>
      have counted := steps_counted request (some taken) steps factory
      obtain ⟨checked, flag, survived⟩ := steps_heard policy steps counted ran call made stirs
      obtain ⟨done, _, rfl, sameTurn, _⟩ := steps_placed steps ran call made
      exact ⟨sameTurn, (settle_interrupts policy halt).trans checked, flag, survived⟩

theorem value_heard (taken : Int) (course : ValueCourse bench catches policy request turn taken start calls last halt)
    (call : Call σ) (made : call ∈ calls) (stirs : call.stirs catches = true) :
    ValueHeard policy request call turn last halt := by
  cases course with
  | unrendered fault rendered => cases made
  | crashed line fault rendered answer =>
      obtain rfl := List.mem_singleton.mp made
      refine ⟨rfl, ?_, fun _ => patch_heard _ stirs, fun _ => ?_⟩
      · simp only [Call.isChecked, Bench.patchDone, answer]
        rfl
      · simp only [Call.isSurvived, Bench.patchDone, answer]
        rfl
  | unpatched line failure rendered answer =>
      obtain rfl := List.mem_singleton.mp made
      obtain ⟨plain, goesOn⟩ := give_interrupts policy ⟨.patch failure, some taken, none⟩ rfl
      refine ⟨rfl, ?_, fun _ => patch_heard _ stirs, fun _ => ?_⟩
      · simp only [Call.isChecked, Bench.patchDone, answer]
        exact plain
      · simp only [Call.isSurvived, Bench.patchDone, answer]
        exact goesOn.symm
  | patched line previous later last halt rendered answer patched =>
      rcases List.mem_cons.mp made with here | there
      · subst here
        have interrupted := (patched_flagged taken (patch_heard _ stirs) patched).2
        have checked : Call.isChecked request
            (.patch (bench.patchDone turn (request.patchCall (some taken) line) start.bench)) = true := by
          simp only [Call.isChecked, Bench.patchDone, answer]
          rfl
        refine ⟨rfl, interrupted.trans checked.symm, ?_, ?_⟩
        · exact fun unchecked => Bool.noConfusion (checked.symm.trans unchecked)
        · exact fun unchecked => Bool.noConfusion (checked.symm.trans unchecked)
      · exact patched_heard taken patched call there stirs

theorem values_heard (values : List Int) (counted : turn + values.length = request.config.values.length)
    (course : ValuesCourse bench catches policy request turn values start calls last halt) (call : Call σ)
    (made : call ∈ calls) (stirs : call.stirs catches = true) :
    interrupts halt = call.isFollowed policy request := by
  induction course with
  | done turn start => cases made
  | noticed turn value rest start signal flag => cases made
  | halted turn value rest start calls last halt quiet ran =>
      obtain ⟨_, checked, _, survived⟩ := value_heard value ran call made stirs
      rw [Call.isFollowed, checked]
      cases unchecked : call.isChecked request with
      | true => rfl
      | false =>
          rw [survived unchecked]
          rfl
  | next turn value rest start calls later middle last halt quiet ran ranOn ih =>
      rcases List.mem_append.mp made with here | there
      · obtain ⟨sameTurn, checked, flag, survived⟩ := value_heard value ran call here stirs
        have unchecked : call.isChecked request = false := checked.symm
        rw [(values_flagged rest (flag unchecked) ranOn).2, Call.isFollowed, unchecked, survived unchecked, sameTurn]
        cases rest with
        | nil =>
            rw [List.length_singleton] at counted
            exact (decide_eq_false (by omega)).symm
        | cons other rest =>
            rw [List.length_cons, List.length_cons] at counted
            exact (decide_eq_true (by omega)).symm
      · refine ih ?_ there
        rw [← counted, List.length_cons]
        omega

theorem sweep_heard (course : SweepCourse bench catches policy request start calls last halt) (call : Call σ)
    (made : call ∈ calls) (stirs : call.stirs catches = true) :
    interrupts halt = call.isFollowed policy request := by
  have counted := steps_counted request none request.setup rfl
  cases course with
  | halted calls last halt setup =>
      obtain ⟨checked, _, survived⟩ := steps_heard policy request.setup counted setup call made stirs
      rw [Call.isFollowed, checked]
      cases unchecked : call.isChecked request with
      | true => rfl
      | false =>
          rw [survived unchecked]
          rfl
  | prepared early later middle last halt setup values =>
      rcases List.mem_append.mp made with here | there
      · obtain ⟨checked, flag, survived⟩ := steps_heard policy request.setup counted setup call here stirs
        obtain ⟨done, _, same, sameTurn, _⟩ := steps_placed request.setup setup call here
        have turn : call.turn = 0 := by
          rw [same]
          exact sameTurn
        have unchecked : call.isChecked request = false := checked.symm
        rw [(values_flagged _ (flag unchecked) values).2, Call.isFollowed, unchecked, survived unchecked, turn]
        cases request.config.values <;> rfl
      · exact values_heard request.config.values (Nat.zero_add _) values call there stirs

-- A flag or an interruption has a cause: the flag that was there before, or a call.
def Stirred (catches : Int → Bool) (start : Standing σ) (calls : List (Call σ)) : Prop :=
  start.flag ≠ none ∨ ∃ call ∈ calls, call.stirs catches = true

theorem stirred_append (early later : List (Call σ)) (middle : Standing σ) (cause : Stirred catches middle later)
    (before : middle.flag ≠ none → Stirred catches start early) : Stirred catches start (early ++ later) := by
  have widen (stirred : Stirred catches start early) : Stirred catches start (early ++ later) :=
    stirred.imp_right fun heard => heard.imp fun _ found => ⟨List.mem_append_left _ found.1, found.2⟩
  rcases cause with flag | ⟨call, made, stirs⟩
  · exact widen (before flag)
  · exact .inr ⟨call, List.mem_append_right _ made, stirs⟩

theorem step_cause (step : Step) (course : StepCourse bench catches turn value index step start calls last halt)
    (effect : interrupts halt = true ∨ last.flag ≠ none) : Stirred catches start calls := by
  have heard (pending : bench.pending catches step start.bench ≠ none) :
      Stirred catches start [.spawn (bench.spawnDone catches turn value index step start.bench)] := by
    refine .inr ⟨_, List.mem_singleton_self _, (stirs_iff catches _).mpr (.inl ((hears_iff catches _).mpr ?_))⟩
    rw [Bench.pending] at pending
    split at pending
    · exact absurd rfl pending
    · exact pending
  cases course with
  | noticed signal flag =>
      left
      rw [flag]
      exact Option.some_ne_none signal
  | nameless fault quiet named =>
      rcases effect with interrupted | flag
      · cases interrupted
      · exact .inl flag
  | stopped stop quiet told =>
      rcases effect with interrupted | flag
      · cases stop with
        | interrupt signal =>
            refine .inr ⟨_, List.mem_singleton_self _, (stirs_iff catches _).mpr (.inr ?_)⟩
            simp only [Call.isInterrupt, Bench.spawnDone, told]
        | failure cause => cases interrupted
        | fault fault => cases interrupted
      · exact heard flag
  | failed measured quiet told bad =>
      rcases effect with interrupted | flag
      · cases interrupted
      · exact heard flag
  | passed measured quiet told zero =>
      rcases effect with interrupted | flag
      · cases interrupted
      · exact heard flag

theorem steps_cause (steps : List Step)
    (course : StepsCourse bench catches turn value index steps start calls last halt)
    (effect : interrupts halt = true ∨ last.flag ≠ none) : Stirred catches start calls := by
  induction course with
  | done index start => exact .inl (effect.resolve_left Bool.false_ne_true)
  | halted index step rest start calls last halt first => exact step_cause step first effect
  | next index step rest start calls later middle last halt first _ ih =>
      exact stirred_append calls later middle (ih effect) fun flag => step_cause step first (.inr flag)

theorem value_cause (taken : Int) (course : ValueCourse bench catches policy request turn taken start calls last halt)
    (effect : interrupts halt = true ∨ last.flag ≠ none) : Stirred catches start calls := by
  have patch (line : Text)
      (flag : (start.afterPatch bench catches (request.patchCall (some taken) line)).flag ≠ none) :
      Stirred catches start [.patch (bench.patchDone turn (request.patchCall (some taken) line) start.bench)] := by
    rw [Standing.afterPatch] at flag
    cases found : caught catches (bench.patch (request.patchCall (some taken) line) start.bench).signals with
    | none =>
        rw [found] at flag
        exact .inl flag
    | some signal =>
        refine .inr ⟨_, List.mem_singleton_self _, (stirs_iff catches _).mpr (.inl ((hears_iff catches _).mpr ?_))⟩
        intro nothing
        cases found.symm.trans nothing
  cases course with
  | unrendered fault rendered =>
      rcases effect with interrupted | flag
      · cases interrupted
      · exact .inl flag
  | crashed line fault rendered answer =>
      rcases effect with interrupted | flag
      · cases interrupted
      · exact patch line flag
  | unpatched line failure rendered answer =>
      rcases effect with interrupted | flag
      · rw [(give_interrupts policy ⟨.patch failure, some taken, none⟩ rfl).1] at interrupted
        cases interrupted
      · exact patch line flag
  | patched line previous later last halt rendered answer patched =>
      refine stirred_append [_] later (start.afterPatch bench catches (request.patchCall (some taken) line)) ?_ (patch line)
      cases patched with
      | noticed signal flag =>
          left
          rw [flag]
          exact Option.some_ne_none signal
      | stepless fault quiet factory =>
          rcases effect with interrupted | flag
          · cases interrupted
          · exact .inl flag
      | ran steps calls last halt quiet factory ran =>
          rw [settle_interrupts] at effect
          exact steps_cause steps ran effect

theorem values_cause (values : List Int)
    (course : ValuesCourse bench catches policy request turn values start calls last halt)
    (effect : interrupts halt = true ∨ last.flag ≠ none) : Stirred catches start calls := by
  induction course with
  | done turn start => exact .inl (effect.resolve_left Bool.false_ne_true)
  | noticed turn value rest start signal flag =>
      left
      rw [flag]
      exact Option.some_ne_none signal
  | halted turn value rest start calls last halt quiet ran => exact value_cause value ran effect
  | next turn value rest start calls later middle last halt quiet ran _ ih =>
      exact stirred_append calls later middle (ih effect) fun flag => value_cause value ran (.inr flag)

theorem sweep_cause (course : SweepCourse bench catches policy request start calls last halt)
    (interrupted : interrupts halt = true) : Stirred catches start calls := by
  cases course with
  | halted calls last halt setup => exact steps_cause request.setup setup (.inl interrupted)
  | prepared early later middle last halt setup values =>
      exact stirred_append early later middle (values_cause request.config.values values (.inl interrupted))
        fun flag => steps_cause request.setup setup (.inr flag)

theorem sweep_flagged (flagged : start.flag ≠ none)
    (course : SweepCourse bench catches policy request start calls last halt) : calls = [] := by
  cases course with
  | halted calls last halt setup => exact (steps_flagged request.setup flagged setup).1
  | prepared early later middle last halt setup values =>
      obtain ⟨nothing, interrupted, still⟩ := steps_flagged request.setup flagged setup
      have empty : request.setup = [] := by
        rw [interrupts, Option.any_none] at interrupted
        exact List.isEmpty_iff.mp ((Bool.not_eq_false' ..).mp interrupted.symm)
      rw [← (still empty).1] at flagged
      rw [nothing, (values_flagged request.config.values flagged values).1]
      rfl

theorem sweep_stops_iff (course : SweepCourse bench catches policy request start calls last halt) (made : calls ≠ []) :
    interrupts halt = true ↔ ∃ call ∈ calls, call.stirs catches = true ∧ call.isFollowed policy request = true := by
  constructor
  · intro interrupted
    rcases sweep_cause course interrupted with flagged | ⟨call, here, stirs⟩
    · exact absurd (sweep_flagged flagged course) made
    · exact ⟨call, here, stirs, (sweep_heard course call here stirs).symm.trans interrupted⟩
  · rintro ⟨call, here, stirs, followed⟩
    exact (sweep_heard course call here stirs).trans followed

theorem placed_unrestored (call : Call σ) (placed : call.IsPlaced bench request) :
    call.isRestore = false ∧ call.crashesRestore = false := by
  cases call with
  | spawn done => exact ⟨rfl, rfl⟩
  | patch done =>
      obtain ⟨⟨value, line, _, same, _⟩, _⟩ := placed
      rw [Call.isRestore, Call.crashesRestore, same]
      refine ⟨rfl, ?_⟩
      split <;> rfl

theorem of_halt_interrupt (outcome : Outcome) (halt : Option Halt) :
    (Ending.ofHalt outcome halt).isInterrupt = interrupts halt := by
  cases halt with
  | none => rfl
  | some halt => cases halt <;> rfl

theorem restored_interrupt (ending : Ending) (call : PatchDone σ) (valueless : call.call.value = none) :
    (ending.restored call.answer).isInterrupt = true ↔
      ending.isInterrupt = true ∧ Call.crashesRestore (.patch call) = false := by
  rw [Call.crashesRestore, valueless]
  cases call.answer with
  | ok found => exact ⟨fun interrupted => ⟨interrupted, rfl⟩, And.left⟩
  | error stop =>
      cases stop with
      | fault fault =>
          constructor
          · intro interrupted
            cases interrupted
          · rintro ⟨_, calm⟩
            cases calm
      | failure failure => cases ending <;> simp [Ending.restored, Ending.isInterrupt, SweepError.isInterrupt]

theorem restore_unfollowed (policy : Policy) (request : Request) (done : PatchDone σ)
    (valueless : done.call.value = none) : Call.isFollowed policy request (.patch done) = false := by
  rw [Call.isFollowed, Call.isChecked, Call.isSurvived, valueless]
  cases done.answer with
  | ok previous => rfl
  | error stop => cases stop <;> rfl

theorem crashless_append (early : List (Call σ)) (restoring : Call σ)
    (calm : ∀ other ∈ early, other.crashesRestore = false) :
    (∀ other ∈ early ++ [restoring], other.crashesRestore = false) ↔ restoring.crashesRestore = false := by
  rw [List.forall_mem_append]
  constructor
  · rintro ⟨_, quiet⟩
    exact quiet restoring (List.mem_singleton_self _)
  · intro quiet
    exact ⟨calm, fun other there => List.mem_singleton.mp there ▸ quiet⟩

theorem stops_append (early : List (Call σ)) (restoring : Call σ)
    (unfollowed : restoring.isFollowed policy request = false) :
    (∃ other ∈ early ++ [restoring], other.stirs catches = true ∧ other.isFollowed policy request = true) ↔
      ∃ other ∈ early, other.stirs catches = true ∧ other.isFollowed policy request = true := by
  constructor
  · rintro ⟨other, there, stirred, followed⟩
    rcases List.mem_append.mp there with within | last
    · exact ⟨other, within, stirred, followed⟩
    · rw [List.mem_singleton.mp last, unfollowed] at followed
      cases followed
  · rintro ⟨other, there, stops⟩
    exact ⟨other, List.mem_append_left _ there, stops⟩

theorem run_heard (final : σ) (ending : Ending)
    (course : RunCourse bench catches policy request start calls final ending) (call : Call σ) (made : call ∈ calls)
    (stirs : call.stirs catches = true) :
    ending.isInterrupt = true ↔
      (if call.isRestore then ∃ other ∈ calls, other.stirs catches = true ∧ other.isFollowed policy request = true
        else call.isFollowed policy request = true) ∧ ∀ other ∈ calls, other.crashesRestore = false := by
  cases course with
  | told ending dry unfailing => cases made
  | swept calls last halt real swept unrestored =>
      have calm (other : Call σ) (there : other ∈ calls) := placed_unrestored other (sweep_placed swept other there)
      rw [of_halt_interrupt, sweep_heard swept call made stirs, (calm call made).1, if_neg Bool.false_ne_true]
      exact ⟨fun followed => ⟨followed, fun other there => (calm other there).2⟩, And.left⟩
  | restored early last halt line turn real swept restore found =>
      have calm (other : Call σ) (there : other ∈ early) := placed_unrestored other (sweep_placed swept other there)
      have nonempty : early ≠ [] := by
        intro nothing
        rw [nothing] at found
        cases found
      rw [show (bench.patch (request.patchCall none line) last.bench).answer =
          (bench.patchDone turn (request.patchCall none line) last.bench).answer from rfl,
        restored_interrupt _ _ rfl, of_halt_interrupt, crashless_append early _ fun other there => (calm other there).2]
      refine and_congr_left fun _ => ?_
      rcases List.mem_append.mp made with here | there
      · rw [sweep_heard swept call here stirs, (calm call here).1, if_neg Bool.false_ne_true]
      · obtain rfl := List.mem_singleton.mp there
        have unfollowed :=
          restore_unfollowed policy request (bench.patchDone turn (request.patchCall none line) last.bench) rfl
        have isRestore : Call.isRestore
            (.patch (bench.patchDone turn (request.patchCall none line) last.bench)) = true := rfl
        rw [if_pos isRestore, sweep_stops_iff swept nonempty, stops_append early _ unfollowed]

end Steps

-- A signal that is caught during a call ends the run with an interruption exactly if the call is followed by another
-- question for signals, and if nothing unaccounted for happens while the line is put back. The patch that puts it
-- back is never followed by one.
theorem signal_interrupts_iff {σ : Type} (runner : Runner σ) (request : Request) (workplace : Workplace σ)
    (call : Call σ) (made : call ∈ runner.calls request workplace)
    (heard : call.hears workplace.forwarder.enter.catches = true) :
    (runner.run request workplace).ending.isInterrupt = true ↔
      (if call.isRestore then ∃ other ∈ runner.calls request workplace,
          other.stirs workplace.forwarder.enter.catches = true ∧ other.isFollowed runner.policy request = true
        else call.isFollowed runner.policy request = true) ∧
      ∀ other ∈ runner.calls request workplace, other.crashesRestore = false :=
  run_heard _ _ (run_course runner request workplace) call made ((stirs_iff _ call).mpr (.inl heard))

theorem signal_interrupts_iff_once :
    ∃ call ∈ Sample.runner.calls (Sample.request false) (Sample.workplace Sample.stirred),
      call.isFollowed Sample.runner.policy (Sample.request false) = false ∧
      ((Sample.runner.run (Sample.request false) (Sample.workplace Sample.stirred)).ending.isInterrupt = true ↔
        (if call.isRestore then ∃ other ∈ Sample.runner.calls (Sample.request false) (Sample.workplace Sample.stirred),
            other.stirs (Sample.workplace Sample.stirred).forwarder.enter.catches = true ∧
              other.isFollowed Sample.runner.policy (Sample.request false) = true
          else call.isFollowed Sample.runner.policy (Sample.request false) = true) ∧
        ∀ other ∈ Sample.runner.calls (Sample.request false) (Sample.workplace Sample.stirred),
          other.crashesRestore = false) := by
  have found : (Sample.runner.calls (Sample.request false) (Sample.workplace Sample.stirred)).any (fun call =>
      call.hears (Sample.workplace Sample.stirred).forwarder.enter.catches &&
        !call.isFollowed Sample.runner.policy (Sample.request false)) = true := by
    decide +kernel
  obtain ⟨call, made, heard⟩ := List.any_eq_true.mp found
  rw [Bool.and_eq_true, Bool.not_eq_true'] at heard
  exact ⟨call, made, heard.2,
    signal_interrupts_iff Sample.runner (Sample.request false) (Sample.workplace Sample.stirred) call made heard.1⟩

-- The only step of the only value gets a signal, and the run completes.
theorem last_signal_is_swallowed :
    (∃ call ∈ Sample.runner.calls (Sample.request false) (Sample.workplace Sample.stirred),
      call.hears (Sample.workplace Sample.stirred).forwarder.enter.catches = true) ∧
    (Sample.runner.run (Sample.request false) (Sample.workplace Sample.stirred)).ending.isInterrupt = false := by
  have found : (Sample.runner.calls (Sample.request false) (Sample.workplace Sample.stirred)).any
      (Call.hears (Sample.workplace Sample.stirred).forwarder.enter.catches) = true := by
    decide +kernel
  exact ⟨List.any_eq_true.mp found, by decide +kernel⟩

end ConstantSweep.Sweep

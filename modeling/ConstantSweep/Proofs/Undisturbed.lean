import ConstantSweep.Proofs.Interruption
import ConstantSweep.Proofs.Reference

set_option autoImplicit false

namespace ConstantSweep.Sweep

open ConstantSweep.Text
open ConstantSweep.Signal

-- What was done from one state on is a part of a sweep, and no signal waits afterwards.
structure Follows {σ : Type} (runner : Runner σ) (part : Part σ) (state : State σ) (ended : State σ × Option Halt) :
    Prop where
  halt : ended.2 = part.halt
  bench : ended.1.bench = part.bench
  trace : ended.1.trace = state.trace ++ part.deeds.flatMap runner.shown
  results : ended.1.outcome.results = state.outcome.results ++ part.outcome.results
  failures : ended.1.outcome.failures = state.outcome.failures ++ part.outcome.failures
  quiet : ended.1.forwarder.received = none
  alike : Forwarder.Alike ended.1.forwarder state.forwarder

-- Wherever no signal waits and none disturbs it, the action does what the part says.
def Enacts {σ : Type} (runner : Runner σ) (action : Action σ) (part : σ → Part σ) : Prop :=
  ∀ state : State σ, state.forwarder.received = none → state.forwarder.IsInside →
    (part state.bench).IsCalm runner.bench state.forwarder.catches →
    Follows runner (part state.bench) state (action state)

section Following

variable {σ : Type} (runner : Runner σ)

theorem follows_nothing (state : State σ) (halt : Option Halt) (quiet : state.forwarder.received = none) :
    Follows runner ⟨[], state.bench, halt⟩ state (state, halt) := by
  refine ⟨rfl, rfl, ?_, ?_, ?_, quiet, .refl _⟩ <;> simp [Part.outcome]

theorem follows_trans (first second : List (Deed σ)) (between last : σ) (halt : Option Halt)
    (state middle after : State σ) (early : Follows runner ⟨first, between, none⟩ state (middle, none))
    (late : Follows runner ⟨second, last, halt⟩ middle (after, halt)) :
    Follows runner ⟨first ++ second, last, halt⟩ state (after, halt) := by
  have trace : middle.trace = state.trace ++ first.flatMap runner.shown := early.trace
  have results : middle.outcome.results = state.outcome.results ++ first.filterMap Deed.result? := early.results
  have failures : middle.outcome.failures = state.outcome.failures ++ first.filterMap Deed.failure? := early.failures
  refine ⟨rfl, late.bench, ?_, ?_, ?_, late.quiet, ?_⟩
  · simpa [trace] using late.trace
  · simpa [Part.outcome, results] using late.results
  · simpa [Part.outcome, failures] using late.failures
  · exact late.alike.trans early.alike

theorem follows_onward (deeds : List (Deed σ)) (between : σ) (next : σ → Part σ) (state middle : State σ)
    (ended : State σ × Option Halt) (early : Follows runner ⟨deeds, between, none⟩ state (middle, none))
    (late : Follows runner (next between) middle ended) :
    Follows runner (Part.andThen ⟨deeds, between, none⟩ next) state ended := by
  rcases ended with ⟨after, halt⟩
  obtain rfl : halt = (next between).halt := late.halt
  exact follows_trans runner deeds _ between _ _ state middle after early late

theorem enacts_then (first second : Action σ) (part next : σ → Part σ) (early : Enacts runner first part)
    (late : Enacts runner second next) :
    Enacts runner (first.andThen second) fun before => (part before).andThen next := by
  intro state quiet inside calm
  obtain ⟨calmHere, calmThere⟩ := calm_then (part state.bench) next runner.bench _ calm
  have follows := early state quiet inside calmHere
  dsimp only
  generalize part state.bench = here at follows calmThere ⊢
  rcases here with ⟨deeds, bench, halt⟩
  rcases ran : first state with ⟨middle, stopped⟩
  rw [ran] at follows
  have same : stopped = halt := follows.halt
  subst same
  cases stopped with
  | some halt =>
      rw [then_halted first second state middle halt ran]
      exact follows
  | none =>
      rw [then_next first second state middle ran]
      have between : middle.bench = bench := follows.bench
      have calmOn : (next middle.bench).IsCalm runner.bench middle.forwarder.catches := by
        rw [follows.alike.catches, between]
        exact calmThere rfl
      have followsOn := late middle follows.quiet (follows.alike.inside inside) calmOn
      rw [between] at followsOn
      exact follows_onward runner deeds bench next state middle _ follows followsOn

theorem enacts_nothing (part : σ → Part σ) (idle : ∀ before, part before = ⟨[], before, none⟩) :
    Enacts runner (fun state => (state, none)) part := by
  intro state quiet _ _
  rw [idle]
  exact follows_nothing runner state none quiet

theorem enacts_checked (value step : Option Int) (action : Action σ) (part : σ → Part σ)
    (enacts : Enacts runner action part) : Enacts runner ((State.check value step).andThen action) part := by
  intro state quiet inside calm
  rw [then_next _ _ state state (check_quiet value step state quiet)]
  exact enacts state quiet inside calm

theorem tell_shown (message : Text) (state : State σ) :
    runner.tell message state = state.addEvents (runner.shown (.say message)) := by
  unfold Runner.tell Runner.shown
  split <;> simp [State.addRecord, State.addEvent, State.addEvents]

theorem tell_result_shown (result : StepResult) (state : State σ) :
    runner.tellResult result state = state.addEvents (runner.shown (.report result)) := by
  unfold Runner.tellResult Runner.shown
  split <;> simp [State.addRecord, State.addEvent, State.addEvents]

theorem tell_follows (message : Text) (state : State σ) (quiet : state.forwarder.received = none) :
    Follows runner ⟨[.say message], state.bench, none⟩ state (runner.tell message state, none) := by
  rw [tell_shown]
  refine ⟨rfl, rfl, ?_, ?_, ?_, quiet, ⟨rfl, rfl, rfl⟩⟩ <;>
    simp [Part.outcome, State.addEvents, Deed.result?, Deed.failure?]

theorem report_follows (result : StepResult) (halt : Option Halt) (bench : σ) (state : State σ)
    (quiet : state.forwarder.received = none) (same : state.bench = bench) :
    Follows runner ⟨[.report result], bench, halt⟩ state
      (runner.tellResult result { state with outcome := state.outcome.addResult result }, halt) := by
  rw [tell_result_shown]
  refine ⟨rfl, same, ?_, ?_, ?_, quiet, ⟨rfl, rfl, rfl⟩⟩ <;>
    simp [Part.outcome, State.addEvents, Outcome.addResult, Deed.result?, Deed.failure?]

theorem note_follows (failure : SweepFailure) (state : State σ) (quiet : state.forwarder.received = none)
    (goesOn : runner.policy = .goOn) :
    Follows runner ⟨[.note failure], state.bench, none⟩ state (runner.giveUp failure state) := by
  rw [Runner.giveUp, goesOn]
  refine ⟨rfl, rfl, ?_, ?_, ?_, quiet, ⟨rfl, rfl, rfl⟩⟩ <;>
    simp [Part.outcome, State.addRecord, State.addEvent, Outcome.addFailure, Deed.result?, Deed.failure?, Runner.shown]

theorem told_calm (bench : Bench σ) (catches : Int → Bool) (step : Step) (before : σ)
    (calm : caught catches (bench.spawn step before).signals = none) :
    bench.told catches step before = (bench.spawn step before).answer := by
  rw [Bench.told, calm]
  cases (bench.spawn step before).answer with
  | error stop => rfl
  | ok measured => cases bench.watch <;> rfl

theorem pending_calm (bench : Bench σ) (catches : Int → Bool) (step : Step) (before : σ)
    (calm : caught catches (bench.spawn step before).signals = none) : bench.pending catches step before = none := by
  rw [Bench.pending, calm]
  split <;> rfl

theorem patch_follows (call : PatchCall) (halt : Option Halt) (state : State σ)
    (quiet : state.forwarder.received = none)
    (calm : (Deed.patch call state.bench).IsCalm runner.bench state.forwarder.catches) :
    Follows runner ⟨[.patch call state.bench], (runner.bench.patch call state.bench).state, halt⟩ state
      ((runner.patch call state).1, halt) := by
  refine ⟨rfl, rfl, ?_, ?_, ?_, ?_, Forwarder.deliver_all_alike ..⟩
  · simp [Runner.patch, Runner.shown, State.addEvent, State.addEvents]
  · simp [Runner.patch, Part.outcome, State.addEvent, State.addEvents, Deed.result?]
  · simp [Runner.patch, Part.outcome, State.addEvent, State.addEvents, Deed.failure?]
  · have received := state.forwarder.deliver_all_received (runner.bench.patch call state.bench).signals
    rw [quiet, show caught state.forwarder.catches _ = none from calm] at received
    exact received

theorem spawn_follows (step : Step) (halt : Option Halt) (state : State σ) (quiet : state.forwarder.received = none)
    (inside : state.forwarder.IsInside)
    (calm : (Deed.spawn step state.bench).IsCalm runner.bench state.forwarder.catches) :
    (runner.spawn step state).2 = (runner.bench.spawn step state.bench).answer ∧
      Follows runner ⟨[.spawn step state.bench], (runner.bench.spawn step state.bench).state, halt⟩ state
        ((runner.spawn step state).1, halt) := by
  have supervises := runner.bench.supervise_spec step state.forwarder state.bench inside quiet
  have told := told_calm runner.bench state.forwarder.catches step state.bench calm.1
  have records := supervises.records
  rw [told] at records
  refine ⟨supervises.answer.trans told, rfl, supervises.state, ?_, ?_, ?_, ?_, supervises.alike⟩
  · simp [Runner.spawn, Runner.shown, State.addEvents, supervises.tried, ← records]
  · simp [Runner.spawn, Part.outcome, State.addEvents, Deed.result?]
  · simp [Runner.spawn, Part.outcome, State.addEvents, Deed.failure?]
  · exact supervises.received.trans (pending_calm runner.bench _ step state.bench calm.1)

theorem told_spawn_follows (message : Text) (step : Step) (halt : Option Halt) (state : State σ)
    (quiet : state.forwarder.received = none) (inside : state.forwarder.IsInside)
    (calm : (Deed.spawn step state.bench).IsCalm runner.bench state.forwarder.catches) :
    (runner.spawn step (runner.tell message state)).2 = (runner.bench.spawn step state.bench).answer ∧
      Follows runner ⟨[.say message, .spawn step state.bench], (runner.bench.spawn step state.bench).state, halt⟩ state
        ((runner.spawn step (runner.tell message state)).1, halt) := by
  have told := tell_follows runner message state quiet
  rw [tell_shown] at told ⊢
  obtain ⟨answer, spawned⟩ :=
    spawn_follows runner step halt (state.addEvents (runner.shown (.say message))) quiet inside calm
  exact ⟨answer, follows_trans runner _ _ _ _ _ state _ _ told spawned⟩

theorem run_step_enacts (value : Option Int) (index : Int) (step : Step) :
    Enacts runner (runner.runStep value index step) (runner.bench.stepPart value index step) := by
  rw [Runner.runStep]
  apply enacts_checked
  intro state quiet inside calm
  rw [Bench.stepPart] at calm ⊢
  cases named : stepMessage value index step with
  | error fault => exact follows_nothing runner state _ quiet
  | ok message =>
      rw [named] at calm
      have calmly : (Deed.spawn step state.bench).IsCalm runner.bench state.forwarder.catches := by
        apply calm
        cases (runner.bench.spawn step state.bench).answer <;> simp
      dsimp only
      cases answer : (runner.bench.spawn step state.bench).answer with
      | error stop =>
          obtain ⟨given, spawned⟩ :=
            told_spawn_follows runner message step (some (stop.halt value index)) state quiet inside calmly
          rcases ran : runner.spawn step (runner.tell message state) with ⟨after, reply⟩
          rw [ran] at given spawned
          obtain rfl : reply = .error stop := given.trans answer
          exact spawned
      | ok measured =>
          obtain ⟨given, spawned⟩ := told_spawn_follows runner message step none state quiet inside calmly
          rcases ran : runner.spawn step (runner.tell message state) with ⟨after, reply⟩
          rw [ran] at given spawned
          obtain rfl : reply = .ok measured := given.trans answer
          have whole (halt : Option Halt) := follows_trans runner _ _ _ _ halt state after _ spawned
            (report_follows runner (measured.result value index step) halt _ after spawned.quiet spawned.bench)
          dsimp only
          by_cases zero : measured.exitCode = 0
          · have isOk : (measured.result value index step).isOk = true := beq_iff_eq.mpr zero
            rw [if_pos isOk, if_pos zero]
            exact whole none
          · have isBad : ¬ (measured.result value index step).isOk = true := fun isOk => zero (beq_iff_eq.mp isOk)
            rw [if_neg isBad, if_neg zero]
            exact whole _

theorem run_steps_enact (value : Option Int) (index : Int) (steps : List Step) :
    Enacts runner (runner.runSteps value index steps) (runner.bench.stepsPart value index steps) := by
  induction steps generalizing index with
  | nil => exact enacts_nothing runner _ fun _ => rfl
  | cons step rest ih => exact enacts_then runner _ _ _ _ (run_step_enacts runner value index step) (ih (index + 1))

theorem follows_halted (deeds : List (Deed σ)) (bench : σ) (halt other : Option Halt) (state after : State σ)
    (follows : Follows runner ⟨deeds, bench, halt⟩ state (after, halt)) :
    Follows runner ⟨deeds, bench, other⟩ state (after, other) :=
  ⟨rfl, follows.bench, follows.trace, follows.results, follows.failures, follows.quiet, follows.alike⟩

theorem give_up_follows (value : Int) (deeds : List (Deed σ)) (bench : σ) (error : SweepError) (state after : State σ)
    (follows : Follows runner ⟨deeds, bench, some (.error error)⟩ state (after, some (.error error))) :
    Follows runner (Part.settled runner.policy value ⟨deeds, bench, some (.error error)⟩) state
      (runner.giveUp ⟨some value, error.step, error⟩ after) := by
  cases goesOn : runner.policy with
  | failFast =>
      rw [Runner.giveUp, goesOn]
      exact follows
  | goOn =>
      have noted := note_follows runner ⟨some value, error.step, error⟩ after follows.quiet goesOn
      have bench : after.bench = bench := follows.bench
      rw [bench] at noted
      rcases ran : runner.giveUp ⟨some value, error.step, error⟩ after with ⟨last, halt⟩
      rw [ran] at noted
      obtain rfl : halt = none := noted.halt
      exact follows_trans runner _ _ _ _ _ state after last (follows_halted runner _ _ _ none state after follows) noted

theorem settled_follows (value : Int) (part : Part σ) (state after : State σ) (halt : Option Halt)
    (follows : Follows runner part state (after, halt))
    (kind : ∀ error, part.halt = some (.error error) → error.isOfStep = true) :
    Follows runner (part.settled runner.policy value) state
      (match (after, halt) with
        | (after, some (.error error)) =>
            if error.isOfStep then runner.giveUp ⟨some value, error.step, error⟩ after
            else (after, some (.error error))
        | ended => ended) := by
  rcases part with ⟨deeds, bench, ends⟩
  obtain rfl : halt = ends := follows.halt
  rcases halt with _ | error | fault
  · rw [settled_errorless _ _ _ errorless_none]
    exact follows
  · dsimp only
    rw [if_pos (kind error rfl)]
    exact give_up_follows runner value deeds bench error state after follows
  · rw [settled_errorless _ _ _ (errorless_fault fault)]
    exact follows

theorem run_patched_enacts (request : Request) (value : Int) (line : Text) :
    Enacts runner (runner.runPatched request value line) fun before =>
      (runner.bench.patchedPart request value line before).settled runner.policy value := by
  rw [Runner.runPatched]
  apply enacts_checked
  intro state quiet inside settled
  have calm := (settled_calm_iff _ _ _ runner.bench _).mp settled
  dsimp only
  rw [Bench.patched_part_told] at calm ⊢
  have told := tell_follows runner (valueMessage value line) state quiet
  rw [tell_shown] at told ⊢
  cases made : request.steps value with
  | error fault =>
      rw [settled_errorless _ _ _ (errorless_fault fault)]
      exact follows_halted runner _ _ none _ state _ told
  | ok steps =>
      rw [made] at calm
      have calmly := (calm_then _ _ runner.bench _ calm).2 rfl
      have ran := run_steps_enact runner (some value) 1 steps
        (state.addEvents (runner.shown (.say (valueMessage value line)))) quiet inside calmly
      have settled := settled_follows runner value _ _ _ _ ran fun error =>
        steps_part_kind runner.bench _ (some value) 1 steps state.bench error calmly
      rw [settled_then]
      exact follows_onward runner _ _ _ state _ _ told settled

theorem noted_first_follows (part : Part σ) (state after : State σ) (halt : Option Halt) (line : Text)
    (follows : Follows runner part state (after, halt)) :
    Follows runner part state (after.noteFirstLine line, halt) := by
  unfold State.noteFirstLine
  split
  · exact ⟨follows.halt, follows.bench, follows.trace, follows.results, follows.failures, follows.quiet, follows.alike⟩
  · exact follows

theorem run_value_enacts (request : Request) (value : Int) :
    Enacts runner (runner.runValue request value) fun before =>
      (runner.bench.valuePart request value before).settled runner.policy value := by
  intro state quiet inside settled
  have calm := (settled_calm_iff _ _ _ runner.bench _).mp settled
  dsimp only
  rw [Runner.runValue]
  rw [Bench.value_part_called] at calm ⊢
  cases rendered : request.config.replacement value with
  | error fault =>
      rw [settled_errorless _ _ _ (errorless_fault fault)]
      exact follows_nothing runner state _ quiet
  | ok line =>
      rw [rendered] at calm
      have calmly : (Deed.patch (request.patchCall (some value) line) state.bench).IsCalm runner.bench
          state.forwarder.catches := by
        apply calm
        dsimp only
        split <;> simp [Part.andThen]
      have patched (halt : Option Halt) :=
        patch_follows runner (request.patchCall (some value) line) halt state quiet calmly
      have given : (runner.patch (request.patchCall (some value) line) state).2 =
        (runner.bench.patch (request.patchCall (some value) line) state.bench).answer := rfl
      dsimp only at calm ⊢
      rw [← Request.patchCall]
      rcases ran : runner.patch (request.patchCall (some value) line) state with ⟨after, answer⟩
      rw [ran] at patched given
      rw [← given] at calm ⊢
      rcases answer with (cause | fault) | previous
      · exact give_up_follows runner value _ _ ⟨.patch cause, some value, none⟩ state after (patched _)
      · rw [settled_errorless _ _ _ (errorless_fault fault)]
        exact patched _
      · have late := (calm_then _ _ runner.bench _ calm).2 rfl
        have noted := noted_first_follows runner _ state after none previous (patched none)
        have bench : (after.noteFirstLine previous).bench =
          (runner.bench.patch (request.patchCall (some value) line) state.bench).state := noted.bench
        rw [settled_then, ← bench]
        rw [← bench] at noted late
        refine follows_onward runner _ _ _ state _ _ noted ?_
        refine run_patched_enacts runner request value line _ noted.quiet (noted.alike.inside inside) ?_
        rw [noted.alike.catches]
        exact (settled_calm_iff _ _ _ runner.bench _).mpr late

theorem run_values_enact (request : Request) (values : List Int) :
    Enacts runner (runner.runValues request values) (runner.bench.valuesPart runner.policy request values) := by
  induction values with
  | nil => exact enacts_nothing runner _ fun _ => rfl
  | cons value rest ih =>
      have first := enacts_checked runner (some value) none _ _ (run_value_enacts runner request value)
      exact enacts_then runner _ _ _ _ first ih

theorem run_all_enacts (request : Request) :
    Enacts runner (runner.runAll request) (runner.bench.sweepPart runner.policy request) :=
  enacts_then runner _ _ _ _ (run_steps_enact runner none 1 request.setup)
    (run_values_enact runner request request.config.values)

end Following

-- A part of the reference goes the way that the rules go, and no signal disturbs it.
structure Mirrors {σ : Type} (bench : Bench σ) (catches : Int → Bool) (part : Part σ) (last : Standing σ)
    (halt : Option Halt) : Prop where
  calm : part.IsCalm bench catches
  bench : part.bench = last.bench
  halt : part.halt = halt

section Mirroring

variable {σ : Type} {bench : Bench σ} {catches : Int → Bool} {turn : Nat} {value : Option Int} {index : Int}
  {calls : List (Call σ)} {start last : Standing σ} {halt : Option Halt} {policy : Policy} {request : Request}

theorem calm_concat (deeds : List (Deed σ)) (deed : Deed σ) (early : ∀ other ∈ deeds, other.IsCalm bench catches)
    (calm : deed.IsCalm bench catches) : ∀ other ∈ deeds ++ [deed], other.IsCalm bench catches :=
  List.forall_mem_append.mpr ⟨early, List.forall_mem_singleton.mpr calm⟩

theorem mirrors_halted (part : Part σ) (next : σ → Part σ) (halt : Halt)
    (mirrors : Mirrors bench catches part last (some halt)) :
    Mirrors bench catches (part.andThen next) last (some halt) := by
  rw [and_then_halted part next halt mirrors.halt]
  exact mirrors

theorem mirrors_then (part : Part σ) (next : σ → Part σ) (middle : Standing σ)
    (early : Mirrors bench catches part middle none) (late : Mirrors bench catches (next middle.bench) last halt) :
    Mirrors bench catches (part.andThen next) last halt := by
  rw [← early.bench] at late
  rw [and_then_next part next early.halt]
  exact ⟨List.forall_mem_append.mpr ⟨early.calm, late.calm⟩, late.bench, late.halt⟩

theorem undisturbed_flag (quiet : start.flag = none) (calm : ∀ call ∈ calls, call.stirs catches = false)
    (cause : last.flag ≠ none → Stirred catches start calls) : last.flag = none := by
  cases flag : last.flag with
  | none => rfl
  | some signal =>
      rcases cause (flag ▸ Option.some_ne_none signal) with flagged | ⟨call, made, stirs⟩
      · exact absurd quiet flagged
      · exact Bool.noConfusion ((calm call made).symm.trans stirs)

theorem unheard (call : Call σ) (calm : call.stirs catches = false) : caught catches call.signals = none := by
  cases arrived : caught catches call.signals with
  | none => rfl
  | some signal =>
      have heard := (hears_iff catches call).mpr (arrived ▸ Option.some_ne_none signal)
      exact Bool.noConfusion (calm.symm.trans ((stirs_iff catches call).mpr (.inl heard)))

theorem calm_spawn (step : Step) (before : σ)
    (calm : Call.stirs catches (.spawn (bench.spawnDone catches turn value index step before)) = false) :
    (Deed.spawn step before).IsCalm bench catches := by
  have quiet : caught catches (bench.spawn step before).signals = none := unheard _ calm
  refine ⟨quiet, ?_⟩
  intro signal answer
  have interrupted : Call.isInterrupt (.spawn (bench.spawnDone catches turn value index step before)) = true := by
    simp only [Call.isInterrupt, Bench.spawnDone, told_calm bench catches step before quiet, answer]
  exact Bool.noConfusion (calm.symm.trans ((stirs_iff catches _).mpr (.inr interrupted)))

theorem told_step (step : Step) (before : σ) (answer : Except SpawnStop Measured)
    (told : bench.told catches step before = answer) (sayable : (stepMessage value index step).isOk = true)
    (calm : Call.stirs catches (.spawn (bench.spawnDone catches turn value index step before)) = false) :
    ∃ message, stepMessage value index step = .ok message ∧ (bench.spawn step before).answer = answer ∧
      ∀ deed ∈ [Deed.say message, .spawn step before], deed.IsCalm bench catches := by
  have calmly := calm_spawn step before calm
  have spawned := (told_calm bench catches step before calmly.1).symm.trans told
  cases named : stepMessage value index step with
  | error fault =>
      rw [named] at sayable
      cases sayable
  | ok message =>
      exact ⟨message, rfl, spawned, List.forall_mem_cons.mpr ⟨trivial, List.forall_mem_singleton.mpr calmly⟩⟩

theorem step_mirrors (step : Step) (course : StepCourse bench catches turn value index step start calls last halt)
    (quiet : start.flag = none) (calm : ∀ call ∈ calls, call.stirs catches = false) :
    Mirrors bench catches (bench.stepPart value index step start.bench) last halt := by
  rw [Bench.stepPart]
  cases course with
  | noticed signal flag => exact absurd (quiet.symm.trans flag) (Option.some_ne_none signal).symm
  | nameless fault _ named =>
      rw [named]
      exact ⟨List.forall_mem_nil _, rfl, rfl⟩
  | stopped stop _ told sayable =>
      obtain ⟨message, named, answer, calmly⟩ :=
        told_step step start.bench _ told sayable (calm _ (List.mem_singleton_self _))
      rw [named]
      dsimp only
      rw [answer]
      exact ⟨calmly, rfl, rfl⟩
  | failed measured _ told bad sayable =>
      obtain ⟨message, named, answer, calmly⟩ :=
        told_step step start.bench _ told sayable (calm _ (List.mem_singleton_self _))
      rw [named]
      dsimp only
      rw [answer]
      exact ⟨calm_concat _ (.report _) calmly trivial, rfl, if_neg bad⟩
  | passed measured _ told zero sayable =>
      obtain ⟨message, named, answer, calmly⟩ :=
        told_step step start.bench _ told sayable (calm _ (List.mem_singleton_self _))
      rw [named]
      dsimp only
      rw [answer]
      exact ⟨calm_concat _ (.report _) calmly trivial, rfl, if_pos zero⟩

theorem steps_mirror (steps : List Step)
    (course : StepsCourse bench catches turn value index steps start calls last halt)
    (quiet : start.flag = none) (calm : ∀ call ∈ calls, call.stirs catches = false) :
    Mirrors bench catches (bench.stepsPart value index steps start.bench) last halt := by
  induction course with
  | done index start => exact ⟨List.forall_mem_nil _, rfl, rfl⟩
  | halted index step rest start calls last halt first =>
      exact mirrors_halted _ _ halt (step_mirrors step first quiet calm)
  | next index step rest start calls later middle last halt first _ ih =>
      obtain ⟨early, late⟩ := List.forall_mem_append.mp calm
      have still := undisturbed_flag quiet early fun flag => step_cause step first (.inr flag)
      exact mirrors_then _ _ middle (step_mirrors step first quiet early) (ih still late)

theorem given_mirrors (part : Part σ) (value : Int) (error : SweepError)
    (mirrors : Mirrors bench catches part last (some (.error error))) :
    Mirrors bench catches (part.settled policy value) last (policy.give error) := by
  rcases part with ⟨deeds, last, halt⟩
  obtain rfl : halt = some (.error error) := mirrors.halt
  cases policy with
  | failFast => exact mirrors
  | goOn => exact ⟨calm_concat deeds (.note _) mirrors.calm trivial, mirrors.bench, rfl⟩

theorem errorless_mirrors (part : Part σ) (value : Int) (errorless : Errorless halt)
    (mirrors : Mirrors bench catches part last halt) :
    Mirrors bench catches (part.settled policy value) last halt := by
  have same : part.settled policy value = part :=
    settled_errorless policy value part fun error halted => errorless error (mirrors.halt.symm.trans halted)
  rw [same]
  exact mirrors

theorem settled_mirrors (part : Part σ) (value : Int)
    (kind : ∀ error, halt = some (.error error) → error.isOfStep = true)
    (mirrors : Mirrors bench catches part last halt) :
    Mirrors bench catches (part.settled policy value) last (policy.settle halt) := by
  rcases halt with _ | error | fault
  · exact errorless_mirrors part value errorless_none mirrors
  · rw [Policy.settle, if_pos (kind error rfl)]
    exact given_mirrors part value error mirrors
  · exact errorless_mirrors part value (errorless_fault fault) mirrors

theorem patched_mirrors (taken : Int) (line : Text)
    (course : PatchedCourse bench catches policy request turn taken start calls last halt)
    (quiet : start.flag = none) (calm : ∀ call ∈ calls, call.stirs catches = false) :
    Mirrors bench catches ((bench.patchedPart request taken line start.bench).settled policy taken) last halt := by
  rw [Bench.patched_part_told]
  have said : Mirrors bench catches ⟨[.say (valueMessage taken line)], start.bench, none⟩ start none :=
    ⟨List.forall_mem_singleton.mpr trivial, rfl, rfl⟩
  cases course with
  | noticed signal flag => exact absurd (quiet.symm.trans flag) (Option.some_ne_none signal).symm
  | stepless fault _ factory =>
      rw [factory]
      exact errorless_mirrors _ taken (errorless_fault fault) ⟨said.calm, rfl, rfl⟩
  | ran steps calls last halt _ factory ran =>
      rw [factory]
      have mirrors := steps_mirror steps ran quiet calm
      refine settled_mirrors _ taken ?_ (mirrors_then _ _ start said mirrors)
      intro error halted
      exact steps_part_kind bench catches (some taken) 1 steps start.bench error mirrors.calm
        (mirrors.halt.trans halted)

theorem value_mirrors (taken : Int)
    (course : ValueCourse bench catches policy request turn taken start calls last halt)
    (quiet : start.flag = none) (calm : ∀ call ∈ calls, call.stirs catches = false) :
    Mirrors bench catches ((bench.valuePart request taken start.bench).settled policy taken) last halt := by
  have patched (line : Text) (halt : Option Halt) (made : Call.stirs catches
      (.patch (bench.patchDone turn (request.patchCall (some taken) line) start.bench)) = false) :
      Mirrors bench catches ⟨[.patch (request.patchCall (some taken) line) start.bench],
        (bench.patch (request.patchCall (some taken) line) start.bench).state, halt⟩
        (start.afterPatch bench catches (request.patchCall (some taken) line)) halt :=
    ⟨List.forall_mem_singleton.mpr (unheard _ made), rfl, rfl⟩
  rw [Bench.value_part_called]
  cases course with
  | unrendered fault rendered =>
      rw [rendered]
      exact errorless_mirrors _ taken (errorless_fault fault) ⟨List.forall_mem_nil _, rfl, rfl⟩
  | crashed line fault rendered answer =>
      rw [rendered]
      dsimp only
      rw [answer]
      exact errorless_mirrors _ taken (errorless_fault fault) (patched line _ (calm _ (List.mem_singleton_self _)))
  | unpatched line failure rendered answer =>
      rw [rendered]
      dsimp only
      rw [answer]
      exact given_mirrors _ taken _ (patched line _ (calm _ (List.mem_singleton_self _)))
  | patched line previous later last halt rendered answer ran =>
      rw [rendered]
      dsimp only
      rw [answer]
      obtain ⟨here, late⟩ := List.forall_mem_cons.mp calm
      have still : (start.afterPatch bench catches (request.patchCall (some taken) line)).flag = none := by
        rw [Standing.afterPatch, quiet, Option.or_none]
        exact unheard _ here
      dsimp only
      rw [settled_then]
      exact mirrors_then _ _ _ (patched line none here) (patched_mirrors taken line ran still late)

theorem values_mirror (values : List Int)
    (course : ValuesCourse bench catches policy request turn values start calls last halt)
    (quiet : start.flag = none) (calm : ∀ call ∈ calls, call.stirs catches = false) :
    Mirrors bench catches (bench.valuesPart policy request values start.bench) last halt := by
  induction course with
  | done turn start => exact ⟨List.forall_mem_nil _, rfl, rfl⟩
  | noticed turn value rest start signal flag =>
      exact absurd (quiet.symm.trans flag) (Option.some_ne_none signal).symm
  | halted turn value rest start calls last halt _ first =>
      exact mirrors_halted _ _ halt (value_mirrors value first quiet calm)
  | next turn value rest start calls later middle last halt _ first _ ih =>
      obtain ⟨early, late⟩ := List.forall_mem_append.mp calm
      have still := undisturbed_flag quiet early fun flag => value_cause value first (.inr flag)
      exact mirrors_then _ _ middle (value_mirrors value first quiet early) (ih still late)

theorem sweep_mirrors (course : SweepCourse bench catches policy request start calls last halt)
    (quiet : start.flag = none) (calm : ∀ call ∈ calls, call.stirs catches = false) :
    Mirrors bench catches (bench.sweepPart policy request start.bench) last halt := by
  cases course with
  | halted calls last halt setup => exact mirrors_halted _ _ halt (steps_mirror request.setup setup quiet calm)
  | prepared early later middle last halt setup values =>
      obtain ⟨here, late⟩ := List.forall_mem_append.mp calm
      have still := undisturbed_flag quiet here fun flag => steps_cause request.setup setup (.inr flag)
      exact mirrors_then _ _ middle (steps_mirror request.setup setup quiet here)
        (values_mirror request.config.values values still late)

end Mirroring

-- No signal waits when the run begins, and none is caught during a call or is the reason for giving it up.
structure Runner.Undisturbed {σ : Type} (runner : Runner σ) (request : Request) (workplace : Workplace σ) : Prop where
  pending : workplace.forwarder.enter.received = none
  calm : ∀ call ∈ runner.calls request workplace, call.stirs workplace.forwarder.enter.catches = false

section Undisturbed

variable {σ : Type} (runner : Runner σ) (request : Request) (workplace : Workplace σ)

theorem sweep_of_run {bench : Bench σ} {catches : Int → Bool} {policy : Policy} {request : Request}
    {calls : List (Call σ)} {start : Standing σ} (final : σ) (ending : Ending) (real : request.dryRun = false)
    (unrestored : request.restore = false)
    (course : RunCourse bench catches policy request start calls final ending) :
    ∃ last halt, SweepCourse bench catches policy request start calls last halt := by
  cases course with
  | told ending dry unfailing => exact absurd (dry.symm.trans real) Bool.true_eq_false.mp
  | swept calls last halt _ swept _ => exact ⟨last, halt, swept⟩
  | restored early last halt line turn _ swept restore found =>
      exact absurd (restore.symm.trans unrestored) Bool.true_eq_false.mp

theorem calm_reference (real : request.dryRun = false) (unrestored : request.restore = false)
    (undisturbed : runner.Undisturbed request workplace) :
    (runner.reference request workplace).IsCalm runner.bench workplace.forwarder.enter.catches := by
  obtain ⟨last, halt, swept⟩ := sweep_of_run _ _ real unrestored (run_course runner request workplace)
  exact (sweep_mirrors swept undisturbed.pending undisturbed.calm).calm

theorem undisturbed_follows (real : request.dryRun = false) (unrestored : request.restore = false)
    (undisturbed : runner.Undisturbed request workplace) :
    Follows runner (runner.reference request workplace) (.opening workplace)
      (runner.runAll request (.opening workplace)) :=
  run_all_enacts runner request (.opening workplace) undisturbed.pending
    (Forwarder.enter_is_inside workplace.forwarder) (calm_reference runner request workplace real unrestored undisturbed)

theorem undisturbed_trace (real : request.dryRun = false) (unrestored : request.restore = false)
    (undisturbed : runner.Undisturbed request workplace) :
    (runner.run request workplace).trace = (runner.reference request workplace).deeds.flatMap runner.shown := by
  have follows := undisturbed_follows runner request workplace real unrestored undisturbed
  rw [unrestored_run runner request workplace real unrestored]
  exact follows.trace.trans (List.nil_append _)

theorem followed_ending (real : request.dryRun = false) (unrestored : request.restore = false)
    (follows : Follows runner (runner.reference request workplace) (.opening workplace)
      (runner.runAll request (.opening workplace))) :
    (runner.run request workplace).ending =
      .ofHalt (runner.reference request workplace).outcome (runner.reference request workplace).halt := by
  have outcome :
      (runner.runAll request (.opening workplace)).1.outcome = (runner.reference request workplace).outcome :=
    congr (congrArg Outcome.mk (follows.results.trans (List.nil_append _)))
      (follows.failures.trans (List.nil_append _))
  rw [unrestored_run runner request workplace real unrestored, outcome, follows.halt]
  rfl

theorem undisturbed_ending (real : request.dryRun = false) (unrestored : request.restore = false)
    (undisturbed : runner.Undisturbed request workplace) :
    (runner.run request workplace).ending =
      .ofHalt (runner.reference request workplace).outcome (runner.reference request workplace).halt :=
  followed_ending runner request workplace real unrestored
    (undisturbed_follows runner request workplace real unrestored undisturbed)

end Undisturbed

theorem sample_undisturbed : Sample.runner.Undisturbed (Sample.request false) (Sample.workplace Sample.failing) := by
  have calm : (Sample.runner.calls (Sample.request false) (Sample.workplace Sample.failing)).all
      (fun call => !call.stirs (Sample.workplace Sample.failing).forwarder.enter.catches) = true := by
    decide +kernel
  refine ⟨rfl, ?_⟩
  intro call made
  exact (Bool.not_eq_true' _).mp (List.all_eq_true.mp calm call made)

end ConstantSweep.Sweep

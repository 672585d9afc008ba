import ConstantSweep.Proofs.Course

set_option autoImplicit false

namespace ConstantSweep.Sweep

open ConstantSweep.Signal

section Actions

variable {σ : Type}

def State.standing (state : State σ) : Standing σ := ⟨state.bench, state.forwarder.received⟩

def State.asked (state : State σ) : State σ := { state with forwarder := { state.forwarder with received := none } }

theorem check_quiet (value step : Option Int) (state : State σ) (quiet : state.forwarder.received = none) :
    State.check value step state = (state, none) := by
  rw [State.check, Forwarder.check, quiet]

theorem check_flagged (value step : Option Int) (state : State σ) (signal : Int)
    (flagged : state.forwarder.received = some signal) :
    State.check value step state = (state.asked, some (.error (.interrupted signal value step))) := by
  rw [State.check, Forwarder.check, flagged]
  rfl

theorem then_next (first second : Action σ) (state after : State σ) (next : first state = (after, none)) :
    first.andThen second state = second after := by
  rw [Action.andThen, next]

theorem then_halted (first second : Action σ) (state after : State σ) (halt : Halt)
    (halted : first state = (after, some halt)) : first.andThen second state = (after, some halt) := by
  rw [Action.andThen, halted]

theorem tell_quiet (runner : Runner σ) (message : Text) :
    ∃ added, (∀ event ∈ added, event.isQuiet = true) ∧
      ∀ state : State σ, runner.tell message state = state.addEvents added := by
  unfold Runner.tell
  split
  · refine ⟨[.log ⟨.debug, .sweep, message, []⟩, .progress message], by simp [Event.isQuiet], ?_⟩
    simp [State.addRecord, State.addEvent, State.addEvents]
  · exact ⟨[.log ⟨.info, .sweep, message, []⟩], by simp [Event.isQuiet], fun _ => rfl⟩

theorem tell_result_quiet (runner : Runner σ) (result : StepResult) :
    ∃ added, (∀ event ∈ added, event.isQuiet = true) ∧
      ∀ state : State σ, runner.tellResult result state = state.addEvents added := by
  unfold Runner.tellResult
  split
  · refine ⟨[.log ⟨.debug, .sweep, result.line, []⟩, .result result], by simp [Event.isQuiet], ?_⟩
    simp [State.addRecord, State.addEvent, State.addEvents]
  · exact ⟨[.log ⟨.info, .sweep, result.line, []⟩], by simp [Event.isQuiet], fun _ => rfl⟩

theorem logs_quiet (records : List Log.Record) (event : Event σ) (member : event ∈ records.map Event.log) :
    event.isQuiet = true := by
  obtain ⟨record, _, rfl⟩ := List.mem_map.mp member
  rfl

end Actions

-- The trace so far tells of the calls, and the reading of it has come as far as the state.
structure Tracked {σ : Type} (bench : Bench σ) (catches : Int → Bool) (origin : Cursor σ) (calls : List (Call σ))
    (turn : Nat) (value : Option Int) (index : Int) (state : State σ) : Prop where
  read : bench.readTrace catches origin state.trace = (calls, ⟨state.bench, turn, value, index⟩)
  catches : state.forwarder.catches = catches
  inside : state.forwarder.IsInside

-- More calls have been made, and the state keeps account of them; failures of a value that are not kept yet are
-- told apart.
structure Steered {σ : Type} (bench : Bench σ) (catches : Int → Bool) (origin : Cursor σ) (calls more : List (Call σ))
    (turn : Nat) (value : Option Int) (index : Int) (failures : List SweepFailure) (state after : State σ) : Prop where
  tracked : Tracked bench catches origin (calls ++ more) turn value index after
  results : after.outcome.results = state.outcome.results ++ resultsOf more
  failures : after.outcome.failures = state.outcome.failures ++ failures
  firstLine : after.firstLine = state.firstLine.or (firstPrevious more)

section Tracking

variable {σ : Type} {bench : Bench σ} {catches : Int → Bool} {origin : Cursor σ} {calls : List (Call σ)}
  {turn : Nat} {value : Option Int} {index : Int} {state : State σ}

theorem tracked_quiet (tracked : Tracked bench catches origin calls turn value index state) (added : List (Event σ))
    (quiet : ∀ event ∈ added, event.isQuiet = true) :
    Tracked bench catches origin calls turn value index (state.addEvents added) := by
  refine ⟨?_, tracked.catches, tracked.inside⟩
  rw [State.addEvents, Bench.read_trace_append, tracked.read, Bench.read_trace_quiet _ _ _ added quiet, List.append_nil]

theorem tracked_record (tracked : Tracked bench catches origin calls turn value index state) (level : Log.Level)
    (message : Text) (details : List (String × Log.Detail)) :
    Tracked bench catches origin calls turn value index (state.addRecord level message details) :=
  tracked_quiet tracked [.log ⟨level, .sweep, message, details⟩] (logs_quiet [⟨level, .sweep, message, details⟩])

theorem tracked_outcome (outcome : Outcome) (tracked : Tracked bench catches origin calls turn value index state) :
    Tracked bench catches origin calls turn value index { state with outcome := outcome } :=
  ⟨tracked.read, tracked.catches, tracked.inside⟩

theorem tracked_asked (tracked : Tracked bench catches origin calls turn value index state) :
    Tracked bench catches origin calls turn value index state.asked :=
  ⟨tracked.read, tracked.catches, tracked.inside⟩

theorem tracked_event (tracked : Tracked bench catches origin calls turn value index state) (event : Event σ)
    (added : List (Event σ)) (after : State σ) (made : List (Call σ)) (turn₁ : Nat) (value₁ : Option Int) (index₁ : Int)
    (followed : bench.follow catches ⟨state.bench, turn, value, index⟩ event =
      (made, ⟨after.bench, turn₁, value₁, index₁⟩))
    (trace : after.trace = state.trace ++ event :: added) (quiet : ∀ other ∈ added, other.isQuiet = true)
    (alike : Forwarder.Alike after.forwarder state.forwarder) :
    Tracked bench catches origin (calls ++ made) turn₁ value₁ index₁ after := by
  refine ⟨?_, alike.catches.trans tracked.catches, alike.inside tracked.inside⟩
  rw [trace, Bench.read_trace_append, tracked.read, Bench.readTrace, followed]
  dsimp only
  rw [Bench.read_trace_quiet _ _ _ added quiet, List.append_nil]

theorem steered_still (after : State σ) (tracked : Tracked bench catches origin calls turn value index after)
    (outcome : after.outcome = state.outcome) (firstLine : after.firstLine = state.firstLine) :
    Steered bench catches origin calls [] turn value index [] state after := by
  refine ⟨?_, ?_, ?_, ?_⟩
  · rw [List.append_nil]
    exact tracked
  · rw [outcome, resultsOf, List.filterMap_nil, List.append_nil]
  · rw [outcome, List.append_nil]
  · rw [firstLine, firstPrevious, List.findSome?_nil, Option.or_none]

theorem steered_call (call : Call σ) (after : State σ)
    (tracked : Tracked bench catches origin (calls ++ [call]) turn value index after)
    (results : after.outcome.results = state.outcome.results ++ call.result?.toList)
    (failures : after.outcome.failures = state.outcome.failures)
    (firstLine : after.firstLine = state.firstLine.or call.previous?) :
    Steered bench catches origin calls [call] turn value index [] state after := by
  refine ⟨tracked, ?_, ?_, ?_⟩
  · rw [results, resultsOf]
    cases made : call.result? <;> simp [made]
  · rw [failures, List.append_nil]
  · rw [firstLine, firstPrevious]
    cases made : call.previous? <;> simp [made]

theorem steered_trans (first second : List (Call σ)) (turn₁ turn₂ : Nat) (value₁ value₂ : Option Int)
    (index₁ index₂ : Int) (failures later : List SweepFailure) (middle last : State σ)
    (steered : Steered bench catches origin calls first turn₁ value₁ index₁ failures state middle)
    (steeredOn : Steered bench catches origin (calls ++ first) second turn₂ value₂ index₂ later middle last) :
    Steered bench catches origin calls (first ++ second) turn₂ value₂ index₂ (failures ++ later) state last := by
  refine ⟨?_, ?_, ?_, ?_⟩
  · rw [← List.append_assoc]
    exact steeredOn.tracked
  · rw [steeredOn.results, steered.results, results_append, List.append_assoc]
  · rw [steeredOn.failures, steered.failures, List.append_assoc]
  · rw [steeredOn.firstLine, steered.firstLine, first_previous_append, Option.or_assoc]

end Tracking

section Steps

variable {σ : Type} {runner : Runner σ} {catches : Int → Bool} {origin : Cursor σ} {calls : List (Call σ)}
  {turn : Nat} {value : Option Int} {index : Int} {state : State σ}

theorem spawn_tracked (step : Step) (tracked : Tracked runner.bench catches origin calls turn value index state)
    (quiet : state.forwarder.received = none) :
    ∃ after, runner.spawn step state = (after, runner.bench.told catches step state.bench) ∧
      Tracked runner.bench catches origin
        (calls ++ [.spawn (runner.bench.spawnDone catches turn value index step state.bench)]) turn value (index + 1) after ∧
      after.standing = state.standing.afterSpawn runner.bench catches step ∧
      after.outcome = state.outcome ∧ after.firstLine = state.firstLine := by
  have supervises := runner.bench.supervise_spec step state.forwarder state.bench tracked.inside quiet
  have answer := supervises.answer
  have received := supervises.received
  rw [tracked.catches] at answer received
  let supervised := runner.bench.supervise step state.forwarder state.bench
  refine ⟨(runner.spawn step state).1, Prod.ext rfl answer, ?_, ?_, rfl, rfl⟩
  · refine tracked_event tracked (.spawned step state.bench) ((supervised.before ++ supervised.after).map Event.log)
      _ _ _ _ _ ?_ ?_ (logs_quiet _) supervises.alike
    · exact congrArg (fun now => ([_], (⟨now, turn, value, index + 1⟩ : Cursor σ))) supervises.state.symm
    · rw [Runner.spawn, supervises.tried]
      rfl
  · rw [State.standing, Standing.afterSpawn]
    exact congr (congrArg Standing.mk supervises.state) received

theorem told_spawn_tracked (step : Step) (message : Text)
    (tracked : Tracked runner.bench catches origin calls turn value index state)
    (quiet : state.forwarder.received = none) :
    ∃ after, runner.spawn step (runner.tell message state) = (after, runner.bench.told catches step state.bench) ∧
      Tracked runner.bench catches origin
        (calls ++ [.spawn (runner.bench.spawnDone catches turn value index step state.bench)]) turn value (index + 1) after ∧
      after.standing = state.standing.afterSpawn runner.bench catches step ∧
      after.outcome = state.outcome ∧ after.firstLine = state.firstLine := by
  obtain ⟨added, quietly, tell⟩ := tell_quiet runner message
  rw [tell]
  exact spawn_tracked step (tracked_quiet tracked added quietly) quiet

theorem patch_tracked (call : PatchCall) (tracked : Tracked runner.bench catches origin calls turn value index state) :
    ∃ after, runner.patch call state = (after, (runner.bench.patch call state.bench).answer) ∧
      Tracked runner.bench catches origin
        (calls ++ [.patch (runner.bench.patchDone (Bench.turnAfter turn call) call state.bench)])
        (Bench.turnAfter turn call) call.value 1 after ∧
      after.standing = state.standing.afterPatch runner.bench catches call ∧
      after.outcome = state.outcome ∧ after.firstLine = state.firstLine := by
  have received := state.forwarder.deliver_all_received (runner.bench.patch call state.bench).signals
  rw [tracked.catches] at received
  refine ⟨(runner.patch call state).1, rfl, ?_, ?_, rfl, rfl⟩
  · refine tracked_event tracked (.patched call (runner.bench.patch call state.bench).answer)
      ((runner.bench.patch call state.bench).records.map Event.log) _ _ _ _ _ rfl ?_ (logs_quiet _)
      (Forwarder.deliver_all_alike ..)
    rw [Runner.patch]
    simp only [State.addEvents, State.addEvent, List.append_assoc, List.singleton_append]
  · exact congrArg (Standing.mk _) received

theorem result_of_stopped (bench : Bench σ) (turn : Nat) (value : Option Int) (index : Int) (step : Step)
    (before : σ) (stop : SpawnStop)
    (told : bench.told catches step before = .error stop) :
    Call.result? (.spawn (bench.spawnDone catches turn value index step before)) = none := by
  simp only [Call.result?, Bench.spawnDone, told]

theorem result_of_ended (bench : Bench σ) (turn : Nat) (value : Option Int) (index : Int) (step : Step)
    (before : σ) (measured : Measured)
    (told : bench.told catches step before = .ok measured) :
    Call.result? (.spawn (bench.spawnDone catches turn value index step before)) =
      some (measured.result value index step) := by
  simp only [Call.result?, Bench.spawnDone, told]

theorem result_steered (call : Call σ) (result : StepResult) (after : State σ)
    (tracked : Tracked runner.bench catches origin (calls ++ [call]) turn value index after)
    (outcome : after.outcome = state.outcome) (firstLine : after.firstLine = state.firstLine)
    (made : call.result? = some result) (previous : call.previous? = none) :
    ∃ told, runner.tellResult result { after with outcome := after.outcome.addResult result } = told ∧
      told.standing = after.standing ∧ Steered runner.bench catches origin calls [call] turn value index [] state told := by
  obtain ⟨added, quiet, tell⟩ := tell_result_quiet runner result
  have kept := tracked_outcome (after.outcome.addResult result) tracked
  refine ⟨_, tell _, rfl, steered_call call _ (tracked_quiet kept added quiet) ?_ ?_ ?_⟩
  · rw [made]
    exact congrArg (fun before => before.results ++ [result]) outcome
  · have same := congrArg Outcome.failures outcome
    exact same
  · rw [previous, Option.or_none]
    exact firstLine

theorem run_step_course (step : Step) (tracked : Tracked runner.bench catches origin calls turn value index state) :
    ∃ more after halt next, runner.runStep value index step state = (after, halt) ∧
      StepCourse runner.bench catches turn value index step state.standing more after.standing halt ∧
      Steered runner.bench catches origin calls more turn value next [] state after ∧
      (halt = none → next = index + 1) := by
  cases flag : state.forwarder.received with
  | some signal =>
      refine ⟨[], state.asked, _, index, then_halted _ _ state _ _ (check_flagged value (some index) state signal flag),
        .noticed state.standing signal flag, ?_, fun same => absurd same (Option.some_ne_none _)⟩
      exact steered_still state.asked (tracked_asked tracked) rfl rfl
  | none =>
      rw [Runner.runStep, then_next _ _ state state (check_quiet value (some index) state flag)]
      cases named : stepMessage value index step with
      | error fault =>
          exact ⟨[], state, _, index, rfl, .nameless state.standing fault flag named,
            steered_still state tracked rfl rfl, fun same => absurd same (Option.some_ne_none _)⟩
      | ok message =>
          have sayable : (stepMessage value index step).isOk = true := congrArg Except.isOk named
          obtain ⟨after, spawned, trackedOn, standing, outcome, firstLine⟩ :=
            told_spawn_tracked step message tracked flag
          dsimp only
          rw [spawned]
          cases told : runner.bench.told catches step state.bench with
          | error stop =>
              have result := result_of_stopped _ turn value index step _ stop told
              refine ⟨_, after, some (stop.halt value index), index + 1, rfl, ?_,
                steered_call _ after trackedOn ?_ ?_ ?_, fun same => absurd same (Option.some_ne_none _)⟩
              · rw [standing]
                exact .stopped state.standing stop flag told sayable
              · rw [outcome, result]
                exact (List.append_nil _).symm
              · rw [outcome]
              · rw [firstLine]
                exact (Option.or_none ..).symm
          | ok measured =>
              have result := result_of_ended _ turn value index step _ measured told
              obtain ⟨final, tell, same, steered⟩ :=
                result_steered _ _ after trackedOn outcome firstLine result rfl
              dsimp only
              rw [tell]
              refine ⟨_, final, _, index + 1, rfl, ?_, steered, fun _ => rfl⟩
              rw [same, standing]
              by_cases zero : measured.exitCode = 0
              · have isOk : (measured.result value index step).isOk = true := beq_iff_eq.mpr zero
                rw [if_pos isOk]
                exact .passed state.standing measured flag told zero sayable
              · have isBad : ¬ (measured.result value index step).isOk = true := fun isOk => zero (beq_iff_eq.mp isOk)
                rw [if_neg isBad]
                exact .failed state.standing measured flag told zero sayable

theorem run_steps_course (steps : List Step)
    (tracked : Tracked runner.bench catches origin calls turn value index state) :
    ∃ more after halt next, runner.runSteps value index steps state = (after, halt) ∧
      StepsCourse runner.bench catches turn value index steps state.standing more after.standing halt ∧
      Steered runner.bench catches origin calls more turn value next [] state after := by
  induction steps generalizing index state calls with
  | nil => exact ⟨[], state, none, index, rfl, .done index state.standing, steered_still state tracked rfl rfl⟩
  | cons step rest ih =>
      obtain ⟨more, middle, halt, next, ran, course, steered, counted⟩ := run_step_course step tracked
      cases halt with
      | some halt =>
          exact ⟨more, middle, some halt, next, then_halted _ _ state middle halt ran,
            .halted index step rest _ more _ halt course, steered⟩
      | none =>
          obtain rfl := counted rfl
          obtain ⟨later, last, halt, next, ranOn, courseOn, steeredOn⟩ := ih steered.tracked
          refine ⟨more ++ later, last, halt, next, ?_, .next index step rest _ more later _ _ halt course courseOn, ?_⟩
          · rw [Runner.runSteps, then_next _ _ state middle ran, ranOn]
          · exact steered_trans more later turn turn value value (index + 1) next [] [] middle last steered steeredOn

end Steps

section Values

variable {σ : Type} {runner : Runner σ} {catches : Int → Bool} {origin : Cursor σ} {calls : List (Call σ)}
  {turn : Nat} {value : Option Int} {index : Int} {state : State σ}

theorem give_up_steered (failure : SweepFailure) (more : List (Call σ)) (middle : State σ)
    (steered : Steered runner.bench catches origin calls more turn value index [] state middle) :
    ∃ after, runner.giveUp failure middle = (after, runner.policy.give failure.error) ∧
      after.standing = middle.standing ∧
      Steered runner.bench catches origin calls more turn value index (runner.policy.keep [failure]) state after := by
  unfold Runner.giveUp
  cases runner.policy with
  | failFast => exact ⟨middle, rfl, rfl, steered⟩
  | goOn =>
      refine ⟨_, rfl, rfl, ⟨?_, steered.results, ?_, steered.firstLine⟩⟩
      · exact tracked_outcome _ (tracked_record steered.tracked _ _ _)
      · have kept := congrArg (· ++ [failure]) steered.failures
        exact kept.trans (List.append_assoc ..)

theorem settle_steered (taken : Int) (halt : Option Halt) (more : List (Call σ)) (after : State σ)
    (steered : Steered runner.bench catches origin calls more turn (some taken) index [] state after) :
    ∃ final,
      (match (after, halt) with
        | (after, some (.error error)) =>
            if error.isOfStep then runner.giveUp ⟨some taken, error.step, error⟩ after
            else (after, some (.error error))
        | ended => ended) = (final, runner.policy.settle halt) ∧
      final.standing = after.standing ∧
      Steered runner.bench catches origin calls more turn (some taken) index
        (runner.policy.keep (failuresOf (some taken) halt)) state final := by
  have untouched (kept : failuresOf (some taken) halt = []) :
      Steered runner.bench catches origin calls more turn (some taken) index
        (runner.policy.keep (failuresOf (some taken) halt)) state after := by
    rw [kept, keep_nil]
    exact steered
  cases halt with
  | none => exact ⟨after, rfl, rfl, untouched rfl⟩
  | some halt =>
      cases halt with
      | fault fault => exact ⟨after, rfl, rfl, untouched rfl⟩
      | error error =>
          rw [Policy.settle]
          dsimp only
          cases ofStep : error.isOfStep with
          | false =>
              rw [if_neg Bool.false_ne_true, if_neg Bool.false_ne_true]
              refine ⟨after, rfl, rfl, untouched ?_⟩
              rw [failuresOf, ofStep, if_neg Bool.false_ne_true]
          | true =>
              obtain ⟨final, gaveUp, same, kept⟩ :=
                give_up_steered ⟨some taken, error.step, error⟩ more after steered
              rw [if_pos rfl, if_pos rfl, failuresOf, ofStep, if_pos rfl]
              exact ⟨final, gaveUp, same, kept⟩

theorem run_patched_course (request : Request) (value : Int) (line : Text)
    (tracked : Tracked runner.bench catches origin calls turn (some value) 1 state) :
    ∃ more after halt next, runner.runPatched request value line state = (after, halt) ∧
      PatchedCourse runner.bench catches runner.policy request turn value state.standing more after.standing halt ∧
      Steered runner.bench catches origin calls more turn (some value) next (recordedBy runner.policy more) state after := by
  have nothing : recordedBy runner.policy ([] : List (Call σ)) = [] := keep_nil runner.policy
  cases flag : state.forwarder.received with
  | some signal =>
      refine ⟨[], state.asked, _, 1, then_halted _ _ state _ _ (check_flagged (some value) none state signal flag),
        .noticed state.standing signal flag, ?_⟩
      rw [nothing]
      exact steered_still state.asked (tracked_asked tracked) rfl rfl
  | none =>
      rw [Runner.runPatched, then_next _ _ state state (check_quiet (some value) none state flag)]
      obtain ⟨added, quiet, tell⟩ := tell_quiet runner (valueMessage value line)
      have trackedOn := tracked_quiet tracked added quiet
      dsimp only
      rw [tell]
      cases made : request.steps value with
      | error fault =>
          refine ⟨[], state.addEvents added, _, 1, rfl, .stepless state.standing fault flag made, ?_⟩
          rw [nothing]
          exact steered_still _ trackedOn rfl rfl
      | ok steps =>
          obtain ⟨more, after, halt, next, ran, course, steered⟩ := run_steps_course steps trackedOn
          have steered : Steered runner.bench catches origin calls more turn (some value) next [] state after :=
            ⟨steered.tracked, steered.results, steered.failures, steered.firstLine⟩
          obtain ⟨final, settled, same, kept⟩ := settle_steered value halt more after steered
          have recorded : recordedBy runner.policy more = runner.policy.keep (failuresOf (some value) halt) :=
            congrArg _ (steps_failures steps course)
          dsimp only
          rw [ran]
          refine ⟨more, final, _, next, settled, ?_, ?_⟩
          · rw [same]
            exact .ran state.standing steps more after.standing halt flag made course
          · rw [recorded]
            exact kept

theorem patch_call_found (bench : Bench σ) (turn : Nat) (request : Request) (value : Int) (line previous : Text)
    (before : σ) (answer : (bench.patch (request.patchCall (some value) line) before).answer = .ok previous) :
    Call.failure? (.patch (bench.patchDone turn (request.patchCall (some value) line) before)) = none ∧
      Call.previous? (.patch (bench.patchDone turn (request.patchCall (some value) line) before)) = some previous := by
  simp only [Call.failure?, Call.previous?, Bench.patchDone, Request.patchCall] at answer ⊢
  rw [answer]
  exact ⟨rfl, rfl⟩

theorem patch_call_refused (bench : Bench σ) (turn : Nat) (request : Request) (value : Int) (line : Text)
    (before : σ) (stop : PatchStop)
    (answer : (bench.patch (request.patchCall (some value) line) before).answer = .error stop) :
    Call.failure? (.patch (bench.patchDone turn (request.patchCall (some value) line) before)) =
        stop.failure? value ∧
      Call.previous? (.patch (bench.patchDone turn (request.patchCall (some value) line) before)) = none := by
  simp only [Call.failure?, Call.previous?, Bench.patchDone, Request.patchCall] at answer ⊢
  rw [answer]
  exact ⟨rfl, rfl⟩

theorem noted_first_line (state : State σ) (previous : Text) :
    (state.noteFirstLine previous).firstLine = state.firstLine.or (some previous) := by
  unfold State.noteFirstLine
  cases found : state.firstLine with
  | none => rfl
  | some line => exact found

theorem tracked_noted (previous : Text) (tracked : Tracked runner.bench catches origin calls turn value index state) :
    Tracked runner.bench catches origin calls turn value index (state.noteFirstLine previous) := by
  unfold State.noteFirstLine
  split
  · exact ⟨tracked.read, tracked.catches, tracked.inside⟩
  · exact tracked

theorem noted_frame (state : State σ) (previous : Text) :
    (state.noteFirstLine previous).standing = state.standing ∧ (state.noteFirstLine previous).outcome = state.outcome := by
  unfold State.noteFirstLine
  split <;> exact ⟨rfl, rfl⟩

theorem run_refused_course (request : Request) (taken : Int) (line : Text) (stop : PatchStop) (after : State σ)
    (patched : runner.patch (request.patchCall (some taken) line) state = (after, .error stop))
    (tracked : Tracked runner.bench catches origin
      (calls ++ [.patch (runner.bench.patchDone (turn + 1) (request.patchCall (some taken) line) state.bench)])
      (turn + 1) (some taken) 1 after)
    (rendered : request.config.replacement taken = .ok line)
    (answer : (runner.bench.patch (request.patchCall (some taken) line) state.bench).answer = .error stop)
    (standing : after.standing = state.standing.afterPatch runner.bench catches (request.patchCall (some taken) line))
    (outcome : after.outcome = state.outcome) (firstLine : after.firstLine = state.firstLine) :
    ∃ final halt, runner.runValue request taken state = (final, halt) ∧
      ValueCourse runner.bench catches runner.policy request (turn + 1) taken state.standing
        [.patch (runner.bench.patchDone (turn + 1) (request.patchCall (some taken) line) state.bench)] final.standing halt ∧
      Steered runner.bench catches origin calls
        [.patch (runner.bench.patchDone (turn + 1) (request.patchCall (some taken) line) state.bench)] (turn + 1)
        (some taken) 1 (recordedBy runner.policy
          [.patch (runner.bench.patchDone (turn + 1) (request.patchCall (some taken) line) state.bench)]) state final := by
  obtain ⟨failure, previous⟩ := patch_call_refused runner.bench (turn + 1) request taken line state.bench stop answer
  have steered : Steered runner.bench catches origin calls
      [.patch (runner.bench.patchDone (turn + 1) (request.patchCall (some taken) line) state.bench)] (turn + 1)
      (some taken) 1 [] state after := by
    refine steered_call _ after tracked ?_ ?_ ?_
    · rw [outcome]
      exact (List.append_nil _).symm
    · rw [outcome]
    · rw [firstLine, previous, Option.or_none]
  rw [Runner.runValue, rendered]
  dsimp only
  rw [show runner.patch ⟨⟨request.config.target, request.config.pattern, line⟩, some taken⟩ state = _ from patched]
  cases stop with
  | fault fault =>
      refine ⟨after, some (.fault fault), rfl, ?_, ?_⟩
      · rw [standing]
        exact .crashed state.standing line fault rendered answer
      · rw [recordedBy, List.filterMap_cons_none failure, List.filterMap_nil, keep_nil]
        exact steered
  | failure cause =>
      obtain ⟨final, gaveUp, same, kept⟩ :=
        give_up_steered ⟨some taken, none, ⟨.patch cause, some taken, none⟩⟩ _ after steered
      refine ⟨final, _, gaveUp, ?_, ?_⟩
      · rw [same, standing]
        exact .unpatched state.standing line cause rendered answer
      · rw [recordedBy, List.filterMap_cons_some failure, List.filterMap_nil]
        exact kept

theorem run_value_course (request : Request) (taken : Int)
    (tracked : Tracked runner.bench catches origin calls turn value index state) :
    ∃ more after halt turn₁ value₁ next, runner.runValue request taken state = (after, halt) ∧
      ValueCourse runner.bench catches runner.policy request (turn + 1) taken state.standing more after.standing halt ∧
      Steered runner.bench catches origin calls more turn₁ value₁ next (recordedBy runner.policy more) state after ∧
      (halt = none → turn₁ = turn + 1) := by
  cases rendered : request.config.replacement taken with
  | error fault =>
      rw [Runner.runValue, rendered]
      refine ⟨[], state, _, turn, value, index, rfl, .unrendered state.standing fault rendered, ?_,
        fun same => absurd same (Option.some_ne_none _)⟩
      rw [show recordedBy runner.policy ([] : List (Call σ)) = [] from keep_nil runner.policy]
      exact steered_still state tracked rfl rfl
  | ok line =>
      obtain ⟨after, patched, trackedOn, standing, outcome, firstLine⟩ :=
        patch_tracked (request.patchCall (some taken) line) tracked
      cases answer : (runner.bench.patch (request.patchCall (some taken) line) state.bench).answer with
      | error stop =>
          rw [answer] at patched
          obtain ⟨final, halt, ended, course, steered⟩ :=
            run_refused_course request taken line stop after patched trackedOn rendered answer standing outcome firstLine
          exact ⟨_, final, halt, turn + 1, some taken, 1, ended, course, steered, fun _ => rfl⟩
      | ok found =>
          rw [answer] at patched
          rw [Runner.runValue, rendered]
          dsimp only
          rw [show runner.patch ⟨⟨request.config.target, request.config.pattern, line⟩, some taken⟩ state = _ from patched]
          obtain ⟨failure, previous⟩ :=
            patch_call_found runner.bench (turn + 1) request taken line found state.bench answer
          obtain ⟨sameStanding, sameOutcome⟩ := noted_frame after found
          have steered : Steered runner.bench catches origin calls
              [.patch (runner.bench.patchDone (turn + 1) (request.patchCall (some taken) line) state.bench)] (turn + 1)
              (some taken) 1 [] state (after.noteFirstLine found) := by
            refine steered_call _ _ (tracked_noted found trackedOn) ?_ ?_ ?_
            · rw [sameOutcome, outcome]
              exact (List.append_nil _).symm
            · rw [sameOutcome, outcome]
            · rw [noted_first_line, firstLine, previous]
          obtain ⟨more, final, halt, next, ran, course, steeredOn⟩ :=
            run_patched_course request taken line steered.tracked
          rw [sameStanding, standing] at course
          refine ⟨_, final, halt, turn + 1, some taken, next, ran,
            .patched state.standing line found more final.standing halt rendered answer course, ?_, fun _ => rfl⟩
          have recorded : recordedBy runner.policy
              (.patch (runner.bench.patchDone (turn + 1) (request.patchCall (some taken) line) state.bench) :: more) =
                recordedBy runner.policy more := congrArg runner.policy.keep (List.filterMap_cons_none failure)
          have whole :=
            steered_trans _ more (turn + 1) (turn + 1) (some taken) (some taken) 1 next [] _ _ final steered steeredOn
          rw [List.nil_append, ← recorded] at whole
          exact whole

theorem run_values_course (request : Request) (values : List Int)
    (tracked : Tracked runner.bench catches origin calls turn value index state) :
    ∃ more after halt turn₁ value₁ next, runner.runValues request values state = (after, halt) ∧
      ValuesCourse runner.bench catches runner.policy request turn values state.standing more after.standing halt ∧
      Steered runner.bench catches origin calls more turn₁ value₁ next (recordedBy runner.policy more) state after := by
  have nothing : recordedBy runner.policy ([] : List (Call σ)) = [] := keep_nil runner.policy
  induction values generalizing turn value index state calls with
  | nil =>
      refine ⟨[], state, none, turn, value, index, rfl, .done turn state.standing, ?_⟩
      rw [nothing]
      exact steered_still state tracked rfl rfl
  | cons taken rest ih =>
      rw [Runner.runValues]
      cases flag : state.forwarder.received with
      | some signal =>
          have noticed :=
            then_halted _ (runner.runValue request taken) state _ _ (check_flagged (some taken) none state signal flag)
          refine ⟨[], state.asked, _, turn, value, index, then_halted _ _ state _ _ noticed,
            .noticed turn taken rest state.standing signal flag, ?_⟩
          rw [nothing]
          exact steered_still state.asked (tracked_asked tracked) rfl rfl
      | none =>
          obtain ⟨more, middle, halt, turn₁, value₁, next, ran, course, steered, counted⟩ :=
            run_value_course request taken tracked
          have went := then_next _ (runner.runValue request taken) state state (check_quiet (some taken) none state flag)
          rw [ran] at went
          cases halt with
          | some halt =>
              exact ⟨more, middle, some halt, turn₁, value₁, next, then_halted _ _ state middle halt went,
                .halted turn taken rest _ more _ halt flag course, steered⟩
          | none =>
              obtain rfl := counted rfl
              obtain ⟨later, last, halt, turn₂, value₂, next₂, ranOn, courseOn, steeredOn⟩ := ih steered.tracked
              refine ⟨more ++ later, last, halt, turn₂, value₂, next₂, ?_,
                .next turn taken rest _ more later _ _ halt flag course courseOn, ?_⟩
              · rw [then_next _ _ state middle went, ranOn]
              · rw [recorded_append]
                exact steered_trans more later _ _ _ _ _ _ _ _ middle last steered steeredOn

theorem run_all_course (request : Request) (tracked : Tracked runner.bench catches origin calls 0 none 1 state) :
    ∃ more after halt turn₁ value₁ next, runner.runAll request state = (after, halt) ∧
      SweepCourse runner.bench catches runner.policy request state.standing more after.standing halt ∧
      Steered runner.bench catches origin calls more turn₁ value₁ next (recordedBy runner.policy more) state after := by
  obtain ⟨more, middle, halt, next, ran, course, steered⟩ := run_steps_course request.setup tracked
  have recorded : recordedBy runner.policy more = [] :=
    (congrArg runner.policy.keep (steps_failures request.setup course)).trans (keep_nil runner.policy)
  cases halt with
  | some halt =>
      refine ⟨more, middle, some halt, 0, none, next, then_halted _ _ state middle halt ran,
        .halted state.standing more middle.standing halt course, ?_⟩
      rw [recorded]
      exact steered
  | none =>
      obtain ⟨later, last, halt, turn₁, value₁, next₁, ranOn, courseOn, steeredOn⟩ :=
        run_values_course request request.config.values steered.tracked
      refine ⟨more ++ later, last, halt, turn₁, value₁, next₁, ?_,
        .prepared state.standing more later middle.standing last.standing halt course courseOn, ?_⟩
      · rw [Runner.runAll, then_next _ _ state middle ran, ranOn]
      · rw [recorded_append, recorded]
        exact steered_trans more later _ _ _ _ _ _ _ _ middle last steered steeredOn

theorem restore_line_course (request : Request) (line : Text) (ending : Ending)
    (tracked : Tracked runner.bench catches origin calls turn value index state) :
    ∃ after, runner.restoreLine request.config line ending state =
        (after, ending.restored (runner.bench.patch (request.patchCall none line) state.bench).answer) ∧
      Tracked runner.bench catches origin
        (calls ++ [.patch (runner.bench.patchDone turn (request.patchCall none line) state.bench)]) turn none 1 after ∧
      after.bench = (runner.bench.patch (request.patchCall none line) state.bench).state := by
  obtain ⟨after, patched, trackedOn, standing, _, _⟩ := patch_tracked (request.patchCall none line) tracked
  have bench : after.bench = _ := congrArg Standing.bench standing
  rw [Runner.restoreLine]
  rw [show runner.patch ⟨⟨request.config.target, request.config.pattern, line⟩, none⟩ state = _ from patched]
  cases (runner.bench.patch (request.patchCall none line) state.bench).answer with
  | ok found => exact ⟨_, rfl, tracked_record trackedOn _ _ _, bench⟩
  | error stop =>
      cases stop with
      | fault fault => exact ⟨after, rfl, trackedOn, bench⟩
      | failure failure =>
          refine ⟨_, Prod.ext rfl ?_, tracked_record trackedOn _ _ _, bench⟩
          cases ending <;> rfl

end Values

section DryRuns

variable {σ : Type}

theorem tell_steps_quiet (runner : Runner σ) (value : Option Int) (index : Int) (steps : List Step) :
    ∃ added, (∀ event ∈ added, event.isQuiet = true) ∧
      ∀ state : State σ, runner.tellSteps value index steps state = state.addEvents added := by
  induction steps generalizing index with
  | nil =>
      refine ⟨[], List.forall_mem_nil _, fun state => ?_⟩
      rw [Runner.tellSteps, State.addEvents, List.append_nil]
  | cons step rest ih =>
      obtain ⟨added, quiet, tell⟩ := tell_quiet runner
        ("[dry-run] value=" ++ StepResult.valueText value ++ " step=" ++ toString index ++ ": " ++
          Text.intercalate " " step.command)
      obtain ⟨more, quietMore, tellMore⟩ := ih (index + 1)
      refine ⟨added ++ more, List.forall_mem_append.mpr ⟨quiet, quietMore⟩, fun state => ?_⟩
      rw [Runner.tellSteps, tell, tellMore, State.addEvents, State.addEvents, State.addEvents, List.append_assoc]

theorem of_halt_unfailing (outcome other : Outcome) (halt : Option Halt) (error : SweepError)
    (errorless : Errorless halt) : Ending.ofHalt outcome halt ≠ .failed error other := by
  intro failed
  rcases halt with _ | cause | fault
  · cases failed
  · exact errorless cause rfl
  · cases failed

def Request.untold? (request : Request) (value : Int) : Option Halt :=
  match request.config.replacement value, request.steps value with
  | .error fault, _ => some (.fault fault)
  | .ok _, .error fault => some (.fault fault)
  | .ok _, .ok _ => none

theorem untold_errorless (request : Request) (values : List Int) : Errorless (values.findSome? request.untold?) := by
  intro error same
  obtain ⟨value, _, untold⟩ := List.exists_of_findSome?_eq_some same
  rw [Request.untold?] at untold
  split at untold <;> cases untold

theorem tell_values_quiet (runner : Runner σ) (request : Request) (values : List Int) :
    ∃ added, (∀ event ∈ added, event.isQuiet = true) ∧ ∀ state : State σ,
      runner.tellValues request values state = (state.addEvents added, values.findSome? request.untold?) := by
  induction values with
  | nil =>
      refine ⟨[], List.forall_mem_nil _, fun state => ?_⟩
      rw [Runner.tellValues, State.addEvents, List.append_nil, List.findSome?_nil]
  | cons value rest ih =>
      have untold : request.untold? value = _ := Request.untold?.eq_def request value
      cases rendered : request.config.replacement value with
      | error fault =>
          rw [rendered] at untold
          refine ⟨[], List.forall_mem_nil _, fun state => ?_⟩
          rw [Runner.tellValues, rendered, State.addEvents, List.append_nil, List.findSome?_cons, untold]
      | ok line =>
          obtain ⟨added, quiet, tell⟩ := tell_quiet runner
            ("[dry-run] patch " ++ request.config.target.text ++ " -> " ++ trimmed line)
          cases made : request.steps value with
          | error fault =>
              rw [rendered, made] at untold
              refine ⟨added, quiet, fun state => ?_⟩
              simp only [Runner.tellValues, rendered, tell, made, List.findSome?_cons, untold]
          | ok steps =>
              rw [rendered, made] at untold
              obtain ⟨more, quietMore, tellMore⟩ := tell_steps_quiet runner (some value) 1 steps
              obtain ⟨last, quietLast, tellLast⟩ := ih
              have quietAll := List.forall_mem_append.mpr ⟨quietMore, quietLast⟩
              refine ⟨added ++ (more ++ last), List.forall_mem_append.mpr ⟨quiet, quietAll⟩, fun state => ?_⟩
              simp only [Runner.tellValues, rendered, tell, made, tellMore, tellLast, State.addEvents,
                List.append_assoc, List.findSome?_cons, untold]

theorem dry_run_tells (runner : Runner σ) (request : Request) (dry : request.dryRun = true) :
    ∃ added, (∀ event ∈ added, event.isQuiet = true) ∧ ∀ workplace : Workplace σ,
      runner.run request workplace =
        ⟨workplace, added, .ofHalt .empty (request.config.values.findSome? request.untold?)⟩ := by
  obtain ⟨added, quiet, tellSetup⟩ := tell_steps_quiet runner none 1 request.setup
  obtain ⟨more, quietMore, tellAll⟩ := tell_values_quiet runner request request.config.values
  refine ⟨added ++ more, List.forall_mem_append.mpr ⟨quiet, quietMore⟩, fun workplace => ?_⟩
  rw [Runner.run, if_pos dry, Runner.dryRun]
  dsimp only
  rw [tellSetup, tellAll]
  rfl

end DryRuns

theorem dry_run_course {σ : Type} (runner : Runner σ) (request : Request) (workplace : Workplace σ)
    (dry : request.dryRun = true) :
    RunCourse runner.bench workplace.forwarder.enter.catches runner.policy request
      ⟨workplace.bench, workplace.forwarder.enter.received⟩ (runner.calls request workplace)
      (runner.run request workplace).workplace.bench (runner.run request workplace).ending := by
  obtain ⟨added, quiet, ran⟩ := dry_run_tells runner request dry
  rw [Runner.calls, ran]
  dsimp only
  rw [Bench.read_trace_quiet _ _ _ added quiet]
  exact .told _ _ dry fun error outcome => of_halt_unfailing .empty outcome _ error (untold_errorless request _)

section RealRuns

variable {σ : Type} (runner : Runner σ) (request : Request) (workplace : Workplace σ)

def State.opening (workplace : Workplace σ) : State σ := ⟨workplace.bench, workplace.forwarder.enter, none, .empty, []⟩

def State.finished (state : State σ) (ending : Ending) : Finished σ :=
  ⟨⟨state.bench, state.forwarder.leave, state.firstLine⟩, state.trace, ending⟩

theorem real_run_kept (swept : State σ) (halt : Option Halt) (real : request.dryRun = false)
    (ran : runner.runAll request (.opening workplace) = (swept, halt))
    (unrestored : request.restore = true → swept.firstLine = none) :
    runner.run request workplace = swept.finished (.ofHalt swept.outcome halt) := by
  rw [Runner.run, if_neg (Bool.eq_false_iff.mp real), Runner.realRun]
  rw [show runner.runAll request ⟨workplace.bench, workplace.forwarder.enter, none, .empty, []⟩ = _ from ran]
  dsimp only
  split
  · rename_i restore found
    rw [unrestored restore] at found
    cases found
  · rfl

theorem unrestored_run (real : request.dryRun = false) (unrestored : request.restore = false) :
    runner.run request workplace = (runner.runAll request (.opening workplace)).1.finished
      (.ofHalt (runner.runAll request (.opening workplace)).1.outcome (runner.runAll request (.opening workplace)).2) :=
  real_run_kept runner request workplace _ _ real rfl fun restore => absurd restore (Bool.eq_false_iff.mp unrestored)

theorem real_run_restored (swept after : State σ) (halt : Option Halt) (line : Text) (ending : Ending)
    (real : request.dryRun = false) (ran : runner.runAll request (.opening workplace) = (swept, halt))
    (restore : request.restore = true) (found : swept.firstLine = some line)
    (restored : runner.restoreLine request.config line (.ofHalt swept.outcome halt) swept = (after, ending)) :
    runner.run request workplace = after.finished ending := by
  rw [Runner.run, if_neg (Bool.eq_false_iff.mp real), Runner.realRun]
  rw [show runner.runAll request ⟨workplace.bench, workplace.forwarder.enter, none, .empty, []⟩ = _ from ran]
  dsimp only
  rw [restore, found]
  dsimp only
  rw [restored]
  rfl

-- A real run in its two parts: the sweep with its calls, and the patch that puts the line back, if there is one.
theorem real_run_parts (swept : State σ) (halt : Option Halt) (real : request.dryRun = false)
    (ran : runner.runAll request (.opening workplace) = (swept, halt)) :
    ∃ calls, SweepCourse runner.bench workplace.forwarder.enter.catches runner.policy request
        (State.opening workplace).standing calls swept.standing halt ∧
      swept.outcome = ⟨resultsOf calls, recordedBy runner.policy calls⟩ ∧
      (((request.restore = true → firstPrevious calls = none) ∧ runner.calls request workplace = calls ∧
          runner.run request workplace = swept.finished (.ofHalt swept.outcome halt)) ∨
        ∃ (line : Text) (turn : Nat) (after : State σ), request.restore = true ∧ firstPrevious calls = some line ∧
          runner.calls request workplace =
            calls ++ [.patch (runner.bench.patchDone turn (request.patchCall none line) swept.bench)] ∧
          after.bench = (runner.bench.patch (request.patchCall none line) swept.bench).state ∧
          runner.run request workplace = after.finished ((Ending.ofHalt swept.outcome halt).restored
            (runner.bench.patch (request.patchCall none line) swept.bench).answer)) := by
  have tracked : Tracked runner.bench workplace.forwarder.enter.catches ⟨workplace.bench, 0, none, 1⟩ [] 0 none 1
      (.opening workplace) := ⟨rfl, rfl, Forwarder.enter_is_inside workplace.forwarder⟩
  obtain ⟨calls, after, ended, turn, value, index, went, course, steered⟩ := run_all_course request tracked
  obtain ⟨rfl, rfl⟩ := Prod.mk.inj (ran.symm.trans went)
  have outcome : swept.outcome = ⟨resultsOf calls, recordedBy runner.policy calls⟩ :=
    congr (congrArg Outcome.mk steered.results) steered.failures
  have firstLine : swept.firstLine = firstPrevious calls := steered.firstLine.trans (Option.none_or ..)
  refine ⟨calls, course, outcome, ?_⟩
  by_cases restored : request.restore = true ∧ ∃ line, firstPrevious calls = some line
  · obtain ⟨restore, line, found⟩ := restored
    obtain ⟨after, putBack, trackedOn, bench⟩ :=
      restore_line_course request line (.ofHalt swept.outcome halt) steered.tracked
    have ends := real_run_restored runner request workplace swept after halt line _ real ran restore
      (firstLine.trans found) putBack
    refine .inr ⟨line, turn, after, restore, found, ?_, bench, ends⟩
    rw [Runner.calls, ends, State.finished]
    dsimp only
    rw [trackedOn.read]
    rfl
  · have unrestored : request.restore = true → firstPrevious calls = none := by
      intro restore
      cases found : firstPrevious calls with
      | none => rfl
      | some line => exact absurd ⟨restore, line, found⟩ restored
    have ends := real_run_kept runner request workplace swept halt real ran
      (fun restore => firstLine.trans (unrestored restore))
    refine .inl ⟨unrestored, ?_, ends⟩
    rw [Runner.calls, ends, State.finished]
    dsimp only
    rw [steered.tracked.read]
    rfl

theorem real_run_course (real : request.dryRun = false) :
    RunCourse runner.bench workplace.forwarder.enter.catches runner.policy request
      ⟨workplace.bench, workplace.forwarder.enter.received⟩ (runner.calls request workplace)
      (runner.run request workplace).workplace.bench (runner.run request workplace).ending := by
  obtain ⟨calls, course, outcome, ⟨unrestored, made, ends⟩ | ⟨line, turn, after, restore, found, made, bench, ends⟩⟩ :=
    real_run_parts runner request workplace _ _ real rfl
  · rw [made, ends, State.finished, outcome]
    exact .swept (State.opening workplace).standing calls _ _ real course unrestored
  · rw [made, ends, State.finished, outcome]
    dsimp only
    rw [bench]
    exact .restored (State.opening workplace).standing calls _ _ line turn real course restore found

end RealRuns

theorem run_course {σ : Type} (runner : Runner σ) (request : Request) (workplace : Workplace σ) :
    RunCourse runner.bench workplace.forwarder.enter.catches runner.policy request
      ⟨workplace.bench, workplace.forwarder.enter.received⟩ (runner.calls request workplace)
      (runner.run request workplace).workplace.bench (runner.run request workplace).ending := by
  cases dry : request.dryRun with
  | false => exact real_run_course runner request workplace dry
  | true => exact dry_run_course runner request workplace dry

end ConstantSweep.Sweep

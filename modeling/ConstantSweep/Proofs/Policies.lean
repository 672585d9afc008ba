import ConstantSweep.Proofs.Accounting
import ConstantSweep.Proofs.Interruption

set_option autoImplicit false

namespace ConstantSweep.Sweep

open ConstantSweep.Text
open ConstantSweep.Signal

section Growth

variable {σ : Type}

structure State.Extends (before after : State σ) : Prop where
  trace : before.trace <+: after.trace
  results : before.outcome.results <+: after.outcome.results
  failures : before.outcome.failures <+: after.outcome.failures

theorem extends_refl (state : State σ) : state.Extends state :=
  ⟨List.prefix_refl _, List.prefix_refl _, List.prefix_refl _⟩

theorem extends_trans {first second third : State σ} (early : first.Extends second) (late : second.Extends third) :
    first.Extends third :=
  ⟨early.trace.trans late.trace, early.results.trans late.results, early.failures.trans late.failures⟩

theorem extends_events (state after : State σ) (events : List (Event σ)) (trace : after.trace = state.trace ++ events)
    (outcome : after.outcome = state.outcome) : state.Extends after := by
  have results : after.outcome.results = state.outcome.results := congrArg Outcome.results outcome
  have failures : after.outcome.failures = state.outcome.failures := congrArg Outcome.failures outcome
  exact ⟨trace ▸ List.prefix_append _ _, results ▸ List.prefix_refl _, failures ▸ List.prefix_refl _⟩

theorem tell_extends (runner : Runner σ) (message : Text) (state : State σ) :
    state.Extends (runner.tell message state) := by
  obtain ⟨added, _, tell⟩ := tell_quiet runner message
  rw [tell]
  exact extends_events state _ added rfl rfl

theorem tell_result_extends (runner : Runner σ) (result : StepResult) (state : State σ) :
    state.Extends (runner.tellResult result { state with outcome := state.outcome.addResult result }) := by
  obtain ⟨added, _, tell⟩ := tell_result_quiet runner result
  rw [tell]
  exact ⟨List.prefix_append _ _, List.prefix_append _ _, List.prefix_refl _⟩

theorem spawn_extends (runner : Runner σ) (step : Step) (state : State σ) :
    state.Extends (runner.spawn step state).1 :=
  extends_events state _ _ rfl rfl

theorem patch_extends (runner : Runner σ) (call : PatchCall) (state : State σ) :
    state.Extends (runner.patch call state).1 := by
  refine extends_events state _ (.patched call (runner.bench.patch call state.bench).answer ::
    (runner.bench.patch call state.bench).records.map Event.log) ?_ rfl
  simp [Runner.patch, State.addEvent, State.addEvents]

theorem check_extends (value step : Option Int) (state : State σ) : state.Extends (State.check value step state).1 := by
  cases flag : state.forwarder.received with
  | none =>
      rw [check_quiet value step state flag]
      exact extends_refl state
  | some signal =>
      rw [check_flagged value step state signal flag]
      exact extends_events state _ [] (List.append_nil _).symm rfl

theorem then_extends (first second : Action σ) (state : State σ) (early : state.Extends (first state).1)
    (late : ∀ middle : State σ, middle.Extends (second middle).1) : state.Extends (first.andThen second state).1 := by
  rw [Action.andThen]
  split
  · rename_i after ended
    rw [ended] at early
    exact extends_trans early (late after)
  · exact early

theorem noted_first_extends (state : State σ) (line : Text) : state.Extends (state.noteFirstLine line) := by
  unfold State.noteFirstLine
  split
  · exact ⟨List.prefix_refl _, List.prefix_refl _, List.prefix_refl _⟩
  · exact extends_refl state

theorem run_step_extends (runner : Runner σ) (value : Option Int) (index : Int) (step : Step) (state : State σ) :
    state.Extends (runner.runStep value index step state).1 := by
  rw [Runner.runStep]
  refine then_extends _ _ state (check_extends _ _ state) ?_
  intro middle
  cases stepMessage value index step with
  | error fault => exact extends_refl middle
  | ok message =>
      have spawned := extends_trans (tell_extends runner message middle) (spawn_extends runner step _)
      dsimp only
      split
      · rename_i after stop ended
        rw [ended] at spawned
        exact spawned
      · rename_i after measured ended
        rw [ended] at spawned
        exact extends_trans spawned (tell_result_extends runner _ after)

theorem run_steps_extends (runner : Runner σ) (value : Option Int) (index : Int) (steps : List Step) (state : State σ) :
    state.Extends (runner.runSteps value index steps state).1 := by
  induction steps generalizing index state with
  | nil => exact extends_refl state
  | cons step rest ih =>
      rw [Runner.runSteps]
      exact then_extends _ _ state (run_step_extends runner value index step state) (ih (index + 1))

theorem give_up_extends (runner : Runner σ) (failure : SweepFailure) (state : State σ) :
    state.Extends (runner.giveUp failure state).1 := by
  unfold Runner.giveUp
  split
  · exact extends_refl state
  · exact ⟨List.prefix_append _ _, List.prefix_refl _, List.prefix_append _ _⟩

theorem run_patched_extends (runner : Runner σ) (request : Request) (value : Int) (line : Text) (state : State σ) :
    state.Extends (runner.runPatched request value line state).1 := by
  rw [Runner.runPatched]
  refine then_extends _ _ state (check_extends _ _ state) ?_
  intro middle
  have told := tell_extends runner (valueMessage value line) middle
  cases request.steps value with
  | error fault => exact told
  | ok steps =>
      have ran := extends_trans told (run_steps_extends runner (some value) 1 steps _)
      dsimp only
      split
      · rename_i after error ended
        rw [ended] at ran
        split
        · exact extends_trans ran (give_up_extends runner _ after)
        · exact ran
      · exact ran

theorem run_value_extends (runner : Runner σ) (request : Request) (value : Int) (state : State σ) :
    state.Extends (runner.runValue request value state).1 := by
  rw [Runner.runValue]
  cases request.config.replacement value with
  | error fault => exact extends_refl state
  | ok line =>
      have patched :=
        patch_extends runner ⟨⟨request.config.target, request.config.pattern, line⟩, some value⟩ state
      dsimp only
      split
      · rename_i after fault ended
        rw [ended] at patched
        exact patched
      · rename_i after failure ended
        rw [ended] at patched
        exact extends_trans patched (give_up_extends runner _ after)
      · rename_i after previous ended
        rw [ended] at patched
        exact extends_trans patched
          (extends_trans (noted_first_extends after previous) (run_patched_extends runner request value line _))

theorem run_values_extends (runner : Runner σ) (request : Request) (values : List Int) (state : State σ) :
    state.Extends (runner.runValues request values state).1 := by
  induction values generalizing state with
  | nil => exact extends_refl state
  | cons value rest ih =>
      rw [Runner.runValues]
      refine then_extends _ _ state ?_ ih
      exact then_extends _ _ state (check_extends _ _ state) (run_value_extends runner request value)

end Growth

def Runner.under {σ : Type} (runner : Runner σ) (policy : Policy) : Runner σ := { runner with policy := policy }

def State.noted {σ : Type} (state : State σ) (failure : SweepFailure) : State σ :=
  { state.addRecord .error "Sweep value failed, continuing"
      [("value", .ofOption failure.value), ("step", .ofOption failure.step),
       ("error", .text failure.error.message)] with
    outcome := state.outcome.addFailure failure }

structure Agreed {σ : Type} (state : State σ) (ended : State σ × Option Halt) : Prop where
  failures : ended.1.outcome.failures = state.outcome.failures
  errors : ∀ error, ended.2 = some (.error error) → error.value = none ∨ error.isInterrupt = true

structure GivesUp {σ : Type} (state : State σ) (ended : State σ × Option Halt) (after : State σ) (error : SweepError) :
    Prop where
  halted : ended = (after, some (.error error))
  failures : after.outcome.failures = state.outcome.failures
  value : error.value ≠ none
  plain : error.isInterrupt = false

section Policies

variable {σ : Type} (runner : Runner σ)

theorem strict_gives_up (failure : SweepFailure) (state : State σ) :
    (runner.under .failFast).giveUp failure state = (state, some (.error failure.error)) := rfl

theorem lenient_gives_up (failure : SweepFailure) (state : State σ) :
    (runner.under .goOn).giveUp failure state = (state.noted failure, none) := rfl

theorem run_steps_under (policy : Policy) (value : Option Int) (index : Int) (steps : List Step) :
    (runner.under policy).runSteps value index steps = runner.runSteps value index steps := by
  induction steps generalizing index with
  | nil => rfl
  | cons step rest ih =>
      rw [Runner.runSteps, Runner.runSteps, ih]
      rfl

-- Commands note no failure, and their errors belong to their value: they are failures of a step or interruptions.
structure StepsEnd (value : Option Int) (state : State σ) (ended : State σ × Option Halt) : Prop where
  failures : ended.1.outcome.failures = state.outcome.failures
  value : ∀ error, ended.2 = some (.error error) → error.value = value
  kind : ∀ error, ended.2 = some (.error error) → error.isOfStep = true ∨ error.isInterrupt = true

theorem steps_end_errorless (value : Option Int) (state after : State σ) (halt : Option Halt)
    (failures : after.outcome.failures = state.outcome.failures) (errorless : Errorless halt) :
    StepsEnd value state (after, halt) :=
  ⟨failures, fun error same => absurd same (errorless error), fun error same => absurd same (errorless error)⟩

theorem steps_end_error (value : Option Int) (state after : State σ) (error : SweepError)
    (failures : after.outcome.failures = state.outcome.failures) (valued : error.value = value)
    (kind : error.isOfStep = true ∨ error.isInterrupt = true) :
    StepsEnd value state (after, some (.error error)) := by
  refine ⟨failures, ?_, ?_⟩
  · rintro other same
    cases same
    exact valued
  · rintro other same
    cases same
    exact kind

theorem stop_ends (value : Option Int) (index : Int) (state after : State σ) (stop : SpawnStop)
    (failures : after.outcome.failures = state.outcome.failures) :
    StepsEnd value state (after, some (stop.halt value index)) := by
  cases stop with
  | failure cause => exact steps_end_error value state after _ failures rfl (.inl rfl)
  | interrupt signal => exact steps_end_error value state after _ failures rfl (.inr rfl)
  | fault fault => exact steps_end_errorless value state after _ failures (errorless_fault fault)

theorem tell_outcome (message : Text) (state : State σ) : (runner.tell message state).outcome = state.outcome := by
  obtain ⟨added, _, tell⟩ := tell_quiet runner message
  rw [tell]
  rfl

theorem tell_result_outcome (result : StepResult) (state : State σ) :
    (runner.tellResult result state).outcome = state.outcome := by
  obtain ⟨added, _, tell⟩ := tell_result_quiet runner result
  rw [tell]
  rfl

theorem run_step_ends (value : Option Int) (index : Int) (step : Step) (state : State σ) :
    StepsEnd value state (runner.runStep value index step state) := by
  cases flag : state.forwarder.received with
  | some signal =>
      rw [Runner.runStep, then_halted _ _ state _ _ (check_flagged value (some index) state signal flag)]
      exact steps_end_error value state _ _ rfl rfl (.inr rfl)
  | none =>
      rw [Runner.runStep, then_next _ _ state state (check_quiet value (some index) state flag)]
      cases stepMessage value index step with
      | error fault => exact steps_end_errorless value state state _ rfl (errorless_fault fault)
      | ok message =>
          have outcome : (runner.spawn step (runner.tell message state)).1.outcome = state.outcome :=
            tell_outcome runner message state
          dsimp only
          split
          · rename_i after stop ended
            rw [ended] at outcome
            exact stop_ends value index state after stop (congrArg Outcome.failures outcome)
          · rename_i after measured ended
            rw [ended] at outcome
            have failures : (runner.tellResult (measured.result value index step)
                { after with outcome := after.outcome.addResult (measured.result value index step) }).outcome.failures =
                  state.outcome.failures := by
              rw [tell_result_outcome]
              have same : after.outcome.failures = state.outcome.failures := congrArg Outcome.failures outcome
              exact same
            split
            · exact steps_end_errorless value state _ none failures errorless_none
            · exact steps_end_error value state _ _ failures rfl (.inl rfl)

theorem run_steps_end (value : Option Int) (index : Int) (steps : List Step) (state : State σ) :
    StepsEnd value state (runner.runSteps value index steps state) := by
  induction steps generalizing index state with
  | nil => exact steps_end_errorless value state state none rfl errorless_none
  | cons step rest ih =>
      have first := run_step_ends runner value index step state
      rw [Runner.runSteps, Action.andThen]
      split
      · rename_i after ended
        rw [ended] at first
        have later := ih (index + 1) after
        exact ⟨later.failures.trans first.failures, later.value, later.kind⟩
      · exact first

-- A part of a sweep under the two policies: either nothing tells them apart, or the strict one gives up on a value,
-- and the other one has gone on from there.
inductive ValueParts (state : State σ) (strict lenient : State σ × Option Halt) : Prop where
  | together : strict = lenient → Agreed state strict → ValueParts state strict lenient
  | apart (after : State σ) (error : SweepError) : GivesUp state strict after error →
      lenient = (after.noted (.ofError error), none) → ValueParts state strict lenient

theorem errorless_together (state after : State σ) (halt : Option Halt)
    (failures : after.outcome.failures = state.outcome.failures) (errorless : Errorless halt) :
    ValueParts state (after, halt) (after, halt) :=
  .together rfl ⟨failures, fun error same => absurd same (errorless error)⟩

theorem interrupted_together (state after : State σ) (error : SweepError)
    (failures : after.outcome.failures = state.outcome.failures) (interrupted : error.isInterrupt = true) :
    ValueParts state (after, some (.error error)) (after, some (.error error)) := by
  refine .together rfl ⟨failures, ?_⟩
  rintro other same
  cases same
  exact .inr interrupted

theorem run_patched_parts (request : Request) (value : Int) (line : Text) (state : State σ) :
    ValueParts state ((runner.under .failFast).runPatched request value line state)
      ((runner.under .goOn).runPatched request value line state) := by
  rw [Runner.runPatched, Runner.runPatched]
  cases flag : state.forwarder.received with
  | some signal =>
      have halted := check_flagged (some value) none state signal flag
      rw [then_halted _ _ state _ _ halted, then_halted _ _ state _ _ halted]
      exact interrupted_together state _ _ rfl rfl
  | none =>
      have next := check_quiet (some value) none state flag
      rw [then_next _ _ state state next, then_next _ _ state state next]
      have told (policy : Policy) : (runner.under policy).tell (valueMessage value line) state =
        runner.tell (valueMessage value line) state := rfl
      have failures := congrArg Outcome.failures (tell_outcome runner (valueMessage value line) state)
      simp only [told]
      cases request.steps value with
      | error fault => exact errorless_together state _ _ failures (errorless_fault fault)
      | ok steps =>
          have ended := run_steps_end runner (some value) 1 steps (runner.tell (valueMessage value line) state)
          simp only [run_steps_under]
          rcases ran : runner.runSteps (some value) 1 steps (runner.tell (valueMessage value line) state) with
            ⟨after, halt⟩
          rw [ran] at ended
          have kept : after.outcome.failures = state.outcome.failures := ended.failures.trans failures
          rcases halt with _ | error | fault
          · exact errorless_together state after none kept errorless_none
          · have valued : error.value = some value := ended.value error rfl
            have ofError : (⟨some value, error.step, error⟩ : SweepFailure) = .ofError error := by
              rw [SweepFailure.ofError, valued]
            dsimp only
            cases ofStep : error.isOfStep with
            | true =>
                rw [if_pos rfl, if_pos rfl, strict_gives_up, lenient_gives_up, ofError]
                refine .apart after error ⟨rfl, kept, ?_, of_step_no_interrupt error ofStep⟩ rfl
                rw [valued]
                exact Option.some_ne_none value
            | false =>
                have interrupted := (ended.kind error rfl).resolve_left (Bool.eq_false_iff.mp ofStep)
                rw [if_neg Bool.false_ne_true, if_neg Bool.false_ne_true]
                exact interrupted_together state after error kept interrupted
          · exact errorless_together state after _ kept (errorless_fault fault)

theorem run_value_parts (request : Request) (value : Int) (state : State σ) :
    ValueParts state ((runner.under .failFast).runValue request value state)
      ((runner.under .goOn).runValue request value state) := by
  rw [Runner.runValue, Runner.runValue]
  cases request.config.replacement value with
  | error fault => exact errorless_together state state _ rfl (errorless_fault fault)
  | ok line =>
      have patched (policy : Policy) (call : PatchCall) :
        (runner.under policy).patch call state = runner.patch call state := rfl
      have failures : (runner.patch ⟨⟨request.config.target, request.config.pattern, line⟩, some value⟩
        state).1.outcome.failures = state.outcome.failures := rfl
      simp only [patched]
      rcases ran : runner.patch ⟨⟨request.config.target, request.config.pattern, line⟩, some value⟩ state with
        ⟨after, answer⟩
      rw [ran] at failures
      rcases answer with (failure | fault) | previous
      · exact .apart after ⟨.patch failure, some value, none⟩ ⟨rfl, failures, Option.some_ne_none value, rfl⟩ rfl
      · exact errorless_together state after _ failures (errorless_fault fault)
      · have kept := (congrArg Outcome.failures (noted_frame after previous).2).trans failures
        rcases run_patched_parts runner request value line (after.noteFirstLine previous) with
          ⟨same, agreed⟩ | ⟨last, error, givesUp, went⟩
        · exact .together same ⟨agreed.failures.trans kept, agreed.errors⟩
        · exact .apart last error
            ⟨givesUp.halted, givesUp.failures.trans kept, givesUp.value, givesUp.plain⟩ went

-- Values one after the other: once the strict policy has given up, the other one only adds to what there was.
inductive Parts (state : State σ) (strict lenient : State σ × Option Halt) : Prop where
  | together : strict = lenient → Agreed state strict → Parts state strict lenient
  | apart (after : State σ) (error : SweepError) : GivesUp state strict after error →
      (after.noted (.ofError error)).Extends lenient.1 → Parts state strict lenient

theorem parts_after (state middle : State σ) (strict lenient : State σ × Option Halt)
    (failures : middle.outcome.failures = state.outcome.failures) (parts : Parts middle strict lenient) :
    Parts state strict lenient := by
  rcases parts with ⟨same, agreed⟩ | ⟨after, error, givesUp, extended⟩
  · exact .together same ⟨agreed.failures.trans failures, agreed.errors⟩
  · exact .apart after error ⟨givesUp.halted, givesUp.failures.trans failures, givesUp.value, givesUp.plain⟩ extended

theorem run_values_parts (request : Request) (values : List Int) (state : State σ) :
    Parts state ((runner.under .failFast).runValues request values state)
      ((runner.under .goOn).runValues request values state) := by
  induction values generalizing state with
  | nil => exact .together rfl ⟨rfl, fun error same => absurd same (errorless_none error)⟩
  | cons value rest ih =>
      rw [Runner.runValues, Runner.runValues]
      cases flag : state.forwarder.received with
      | some signal =>
          have halted (policy : Policy) := then_halted _ ((runner.under policy).runValue request value) state _ _
            (check_flagged (some value) none state signal flag)
          rw [then_halted _ _ state _ _ (halted .failFast), then_halted _ _ state _ _ (halted .goOn)]
          refine .together rfl ⟨rfl, ?_⟩
          rintro error same
          cases same
          exact .inr rfl
      | none =>
          have next (policy : Policy) := then_next _ ((runner.under policy).runValue request value) state state
            (check_quiet (some value) none state flag)
          rcases run_value_parts runner request value state with ⟨same, agreed⟩ | ⟨after, error, givesUp, went⟩
          · rcases ran : (runner.under .failFast).runValue request value state with ⟨after, halt⟩
            have strictly := (next .failFast).trans ran
            have leniently := (next .goOn).trans (same.symm.trans ran)
            rw [ran] at agreed
            cases halt with
            | none =>
                rw [then_next _ _ state after strictly, then_next _ _ state after leniently]
                exact parts_after state after _ _ agreed.failures (ih after)
            | some halt =>
                rw [then_halted _ _ state after halt strictly, then_halted _ _ state after halt leniently]
                exact .together rfl agreed
          · have strictly := (next .failFast).trans givesUp.halted
            have leniently := (next .goOn).trans went
            rw [then_halted _ _ state after _ strictly, then_next _ _ state _ leniently]
            exact .apart after error ⟨rfl, givesUp.failures, givesUp.value, givesUp.plain⟩
              (run_values_extends _ request rest _)

theorem run_all_parts (request : Request) (state : State σ) :
    Parts state ((runner.under .failFast).runAll request state) ((runner.under .goOn).runAll request state) := by
  have ended := run_steps_end runner none 1 request.setup state
  rw [Runner.runAll, Runner.runAll, run_steps_under, run_steps_under]
  rcases ran : runner.runSteps none 1 request.setup state with ⟨after, halt⟩
  rw [ran] at ended
  cases halt with
  | none =>
      rw [then_next _ _ state after ran, then_next _ _ state after ran]
      exact parts_after state after _ _ ended.failures (run_values_parts runner request request.config.values after)
  | some halt =>
      rw [then_halted _ _ state after halt ran, then_halted _ _ state after halt ran]
      exact .together rfl ⟨ended.failures, fun error same => .inl (ended.value error same)⟩

end Policies

-- What the ending under the strict policy says of the other one. An error of the setup and an interruption end both
-- sweeps alike; any other error is the first failure that the other sweep notes, unless that sweep crashes.
def Ending.Precedes (crashes : Fault → Prop) (strict lenient : Ending) : Prop :=
  match strict with
  | .completed outcome => lenient = strict ∧ outcome.failures = []
  | .crashed _ => lenient = strict
  | .failed error outcome =>
      if error.value = none ∨ error.isInterrupt = true then lenient = strict
      else (∃ account, lenient.account? = some account ∧ outcome.results <+: account.results ∧
          account.failures.head? = some (.ofError error)) ∨
        ∃ fault, lenient = .crashed fault ∧ crashes fault

section Comparison

variable {σ : Type} (runner : Runner σ) (request : Request)

theorem noted_extends (state : State σ) (failure : SweepFailure) : state.Extends (state.noted failure) :=
  ⟨List.prefix_append _ _, List.prefix_refl _, List.prefix_append _ _⟩

theorem of_halt_account (outcome : Outcome) (halt : Option Halt) :
    (∃ account, (Ending.ofHalt outcome halt).account? = some account ∧ outcome.results <+: account.results ∧
      outcome.failures <+: account.failures) ∨ ∃ fault, Ending.ofHalt outcome halt = .crashed fault := by
  rcases halt with _ | error | fault
  · exact .inl ⟨outcome, rfl, List.prefix_refl _, List.prefix_refl _⟩
  · exact .inl ⟨_, rfl, List.prefix_refl _, List.prefix_append _ _⟩
  · exact .inr ⟨fault, rfl⟩

theorem agreed_precedes (state : State σ) (ended : State σ × Option Halt) (fresh : state.outcome = .empty)
    (agreed : Agreed state ended) (crashes : Fault → Prop) :
    (Ending.ofHalt ended.1.outcome ended.2).Precedes crashes (.ofHalt ended.1.outcome ended.2) := by
  rcases ended with ⟨after, _ | error | fault⟩
  · have failures : after.outcome.failures = state.outcome.failures := agreed.failures
    exact ⟨rfl, failures.trans (congrArg Outcome.failures fresh)⟩
  · have alike : error.value = none ∨ error.isInterrupt = true := agreed.errors error rfl
    rw [Ending.ofHalt, Ending.Precedes, if_pos alike]
  · exact rfl

theorem given_up_precedes (state after : State σ) (strict lenient : State σ × Option Halt) (error : SweepError)
    (fresh : state.outcome = .empty) (givesUp : GivesUp state strict after error)
    (extended : (after.noted (.ofError error)).Extends lenient.1) (crashes : Fault → Prop)
    (cause : ∀ fault, Ending.ofHalt lenient.1.outcome lenient.2 = .crashed fault → crashes fault) :
    (Ending.ofHalt strict.1.outcome strict.2).Precedes crashes (.ofHalt lenient.1.outcome lenient.2) := by
  have valued : ¬ (error.value = none ∨ error.isInterrupt = true) := by
    rintro (valueless | interrupted)
    · exact givesUp.value valueless
    · exact Bool.noConfusion (givesUp.plain.symm.trans interrupted)
  rw [givesUp.halted]
  dsimp only [Ending.ofHalt]
  rw [Ending.Precedes, if_neg valued]
  rcases of_halt_account lenient.1.outcome lenient.2 with ⟨account, found, results, failures⟩ | ⟨fault, crashed⟩
  · refine .inl ⟨account, found, extended.results.trans results, ?_⟩
    have empty : after.outcome.failures = [] := givesUp.failures.trans (congrArg Outcome.failures fresh)
    have first : (after.noted (.ofError error)).outcome.failures = [SweepFailure.ofError error] :=
      congrArg (· ++ [SweepFailure.ofError error]) empty
    obtain ⟨more, same⟩ := extended.failures.trans failures
    rw [first] at same
    rw [← same]
    rfl
  · exact .inr ⟨fault, crashed, cause fault crashed⟩

theorem tell_steps_under (policy : Policy) (value : Option Int) (index : Int) (steps : List Step) (state : State σ) :
    (runner.under policy).tellSteps value index steps state = runner.tellSteps value index steps state := by
  induction steps generalizing index state with
  | nil => rfl
  | cons step rest ih =>
      rw [Runner.tellSteps, Runner.tellSteps, ih]
      rfl

theorem tell_values_under (policy : Policy) (values : List Int) (state : State σ) :
    (runner.under policy).tellValues request values state = runner.tellValues request values state := by
  induction values generalizing state with
  | nil => rfl
  | cons value rest ih =>
      rw [Runner.tellValues, Runner.tellValues]
      simp only [ih, tell_steps_under]
      rfl

theorem dry_run_under (policy : Policy) (workplace : Workplace σ) :
    (runner.under policy).dryRun request workplace = runner.dryRun request workplace := by
  simp only [Runner.dryRun, tell_values_under, tell_steps_under]

theorem dry_run_precedes (workplace : Workplace σ) (crashes : Fault → Prop) (dry : request.dryRun = true) :
    (runner.run request workplace).ending.Precedes crashes (runner.run request workplace).ending := by
  obtain ⟨added, _, ran⟩ := dry_run_tells runner request dry
  rw [ran]
  rcases halted : request.config.values.findSome? request.untold? with _ | error | fault
  · exact ⟨rfl, rfl⟩
  · exact absurd halted (untold_errorless request _ error)
  · exact rfl

end Comparison

-- The strict policy does what the other one does up to the first failure of a value, and ends with that failure.
theorem fail_fast_precedes_continue {σ : Type} (runner : Runner σ) (request : Request) (workplace : Workplace σ)
    (unrestored : request.restore = false) :
    ((runner.under .failFast).run request workplace).trace <+: ((runner.under .goOn).run request workplace).trace ∧
      ((runner.under .failFast).run request workplace).ending.Precedes
        (request.Strays ((runner.under .goOn).calls request workplace))
        ((runner.under .goOn).run request workplace).ending := by
  cases dry : request.dryRun with
  | true =>
      have same (policy : Policy) : (runner.under policy).run request workplace = runner.run request workplace := by
        rw [Runner.run, Runner.run, if_pos dry, if_pos dry, dry_run_under]
      rw [same, same]
      exact ⟨List.prefix_refl _, dry_run_precedes runner request workplace _ dry⟩
  | false =>
      have ran (policy : Policy) := unrestored_run (runner.under policy) request workplace dry unrestored
      have cause (fault : Fault) (crashed : ((runner.under .goOn).run request workplace).ending = .crashed fault) :
          request.Strays ((runner.under .goOn).calls request workplace) fault :=
        run_strays _ _ dry (run_course (runner.under .goOn) request workplace) crashed
      rw [ran .goOn] at cause
      rw [ran .failFast, ran .goOn]
      rcases run_all_parts runner request (.opening workplace) with ⟨same, agreed⟩ | ⟨after, error, givesUp, extended⟩
      · rw [← same]
        exact ⟨List.prefix_refl _, agreed_precedes _ _ rfl agreed _⟩
      · refine ⟨?_, given_up_precedes _ after _ _ error rfl givesUp extended _ cause⟩
        rw [givesUp.halted]
        exact (noted_extends after _).trace.trans extended.trace

theorem fail_fast_precedes_continue_once :
    (Sample.request false).restore = false ∧
      ((Sample.runner.under .failFast).run (Sample.request false) (Sample.workplace Sample.failing)).trace.length <
        ((Sample.runner.under .goOn).run (Sample.request false) (Sample.workplace Sample.failing)).trace.length ∧
      ((Sample.runner.under .failFast).run (Sample.request false) (Sample.workplace Sample.failing)).trace <+:
        ((Sample.runner.under .goOn).run (Sample.request false) (Sample.workplace Sample.failing)).trace ∧
      ((Sample.runner.under .failFast).run (Sample.request false) (Sample.workplace Sample.failing)).ending.Precedes
        ((Sample.request false).Strays
          ((Sample.runner.under .goOn).calls (Sample.request false) (Sample.workplace Sample.failing)))
        ((Sample.runner.under .goOn).run (Sample.request false) (Sample.workplace Sample.failing)).ending :=
  ⟨rfl, by decide +kernel,
    fail_fast_precedes_continue Sample.runner (Sample.request false) (Sample.workplace Sample.failing) rfl⟩

end ConstantSweep.Sweep

import ConstantSweep.Proofs.Course
import ConstantSweep.Proofs.Substitution

set_option autoImplicit false

namespace ConstantSweep.Sweep

open ConstantSweep.Text
open ConstantSweep.Signal

-- One thing that a sweep does; a call begins in a state of the bench.
inductive Deed (σ : Type) where
  | patch (call : PatchCall) (before : σ)
  | say (message : Text)
  | spawn (step : Step) (before : σ)
  | report (result : StepResult)
  | note (failure : SweepFailure)

def Deed.result? {σ : Type} : Deed σ → Option StepResult
  | .report result => some result
  | _ => none

def Deed.failure? {σ : Type} : Deed σ → Option SweepFailure
  | .note failure => some failure
  | _ => none

-- A part of a sweep: what is done, the state of the bench afterwards, and what ends the sweep there.
structure Part (σ : Type) where
  deeds : List (Deed σ)
  bench : σ
  halt : Option Halt

namespace Part

variable {σ : Type}

def andThen (first : Part σ) (next : σ → Part σ) : Part σ :=
  match first.halt with
  | some _ => first
  | none => ⟨first.deeds ++ (next first.bench).deeds, (next first.bench).bench, (next first.bench).halt⟩

-- A value that failed ends the sweep, or the failure is noted and the sweep goes on.
def settled (policy : Policy) (value : Int) (part : Part σ) : Part σ :=
  match policy, part.halt with
  | .goOn, some (.error error) => ⟨part.deeds ++ [.note ⟨some value, error.step, error⟩], part.bench, none⟩
  | _, _ => part

def outcome (part : Part σ) : Outcome := ⟨part.deeds.filterMap Deed.result?, part.deeds.filterMap Deed.failure?⟩

end Part

def SweepConfig.lineFor (config : SweepConfig) (value : Int) : Except Fault Text :=
  match config.template with
  | .text template =>
      if Text.isWritable value then .ok (Template.render template (some value)) else .error (.integer .unwritable)
  | other => (other.render (some value)).map Datum.toText

def SweepConfig.IsLine (config : SweepConfig) (value : Int) (line : Text) : Prop :=
  ∃ template, config.template = .text template ∧ Text.isWritable value = true ∧ Template.IsFilling template value line

theorem line_for_replacement (config : SweepConfig) (value : Int) : config.lineFor value = config.replacement value := by
  rw [SweepConfig.lineFor, SweepConfig.replacement]
  split
  · rename_i template given
    rw [given, Datum.render]
    split <;> rfl
  · rfl

theorem rendered_textual (template : Datum) (value : Int) (filled : Datum)
    (rendered : template.render (some value) = .ok filled) : ∃ text, template = .text text := by
  cases template with
  | text text => exact ⟨text, rfl⟩
  | _ => cases rendered

theorem line_for_iff (config : SweepConfig) (value : Int) (line : Text) :
    config.lineFor value = .ok line ↔ config.IsLine value line := by
  have filling (template : Text) := Template.fill_filling template value
  rw [SweepConfig.lineFor, SweepConfig.IsLine]
  constructor
  · intro made
    split at made
    · rename_i template given
      split at made
      · rename_i writable
        cases made
        exact ⟨template, given, writable, filling template⟩
      · cases made
    · rename_i other
      obtain ⟨filled, rendered, _⟩ := map_ok made
      obtain ⟨template, given⟩ := rendered_textual config.template value filled rendered
      exact absurd given (other template)
  · rintro ⟨template, given, writable, its⟩
    rw [given]
    dsimp only
    rw [if_pos writable]
    -- There is one way to go through a template, so the line that is given is the one that is made.
    have passes := ((filling template).onePass _).mpr rfl
    exact congrArg (fun letters => Except.ok (Text.ofList letters)) ((its.onePass _).mp passes)

namespace Bench

variable {σ : Type} (bench : Bench σ)

def stepPart (value : Option Int) (index : Int) (step : Step) (before : σ) : Part σ :=
  match stepMessage value index step with
  | .error fault => ⟨[], before, some (.fault fault)⟩
  | .ok message =>
      match (bench.spawn step before).answer with
      | .error stop =>
          ⟨[.say message, .spawn step before], (bench.spawn step before).state, some (stop.halt value index)⟩
      | .ok measured =>
          ⟨[.say message, .spawn step before, .report (measured.result value index step)],
            (bench.spawn step before).state,
            if measured.exitCode = 0 then none else some (.error (.stepFailed value index measured.exitCode))⟩

def stepsPart (value : Option Int) (index : Int) : List Step → σ → Part σ
  | [], before => ⟨[], before, none⟩
  | step :: rest, before => (bench.stepPart value index step before).andThen (stepsPart value (index + 1) rest)

-- The message about a value whose line is in place, and the value's steps.
def patchedPart (request : Request) (value : Int) (line : Text) (before : σ) : Part σ :=
  let told := .say ("sweeping with " ++ trimmed line ++ " (value=" ++ toString value ++ ")")
  match request.steps value with
  | .error fault => ⟨[told], before, some (.fault fault)⟩
  | .ok steps => Part.andThen ⟨[told], before, none⟩ (bench.stepsPart (some value) 1 steps)

def valuePart (request : Request) (value : Int) (before : σ) : Part σ :=
  match request.config.lineFor value with
  | .error fault => ⟨[], before, some (.fault fault)⟩
  | .ok line =>
      let call := ⟨⟨request.config.target, request.config.pattern, line⟩, some value⟩
      let after := (bench.patch call before).state
      match (bench.patch call before).answer with
      | .error (.fault fault) => ⟨[.patch call before], after, some (.fault fault)⟩
      | .error (.failure cause) => ⟨[.patch call before], after, some (.error ⟨.patch cause, some value, none⟩)⟩
      | .ok _ => Part.andThen ⟨[.patch call before], after, none⟩ (bench.patchedPart request value line)

-- Values in order; the policy says whether there is a next one after a failure.
def valuesPart (policy : Policy) (request : Request) : List Int → σ → Part σ
  | [], before => ⟨[], before, none⟩
  | value :: rest, before =>
      ((bench.valuePart request value before).settled policy value).andThen (valuesPart policy request rest)

def sweepPart (policy : Policy) (request : Request) (before : σ) : Part σ :=
  (bench.stepsPart none 1 request.setup before).andThen (bench.valuesPart policy request request.config.values)

theorem patched_part_told (request : Request) (value : Int) (line : Text) (before : σ) :
    bench.patchedPart request value line before =
      match request.steps value with
      | .error fault => ⟨[.say (valueMessage value line)], before, some (.fault fault)⟩
      | .ok steps =>
          Part.andThen ⟨[.say (valueMessage value line)], before, none⟩ (bench.stepsPart (some value) 1 steps) := rfl

theorem value_part_called (request : Request) (value : Int) (before : σ) :
    bench.valuePart request value before =
      match request.config.replacement value with
      | .error fault => ⟨[], before, some (.fault fault)⟩
      | .ok line =>
          let call := request.patchCall (some value) line
          let after := (bench.patch call before).state
          match (bench.patch call before).answer with
          | .error (.fault fault) => ⟨[.patch call before], after, some (.fault fault)⟩
          | .error (.failure cause) => ⟨[.patch call before], after, some (.error ⟨.patch cause, some value, none⟩)⟩
          | .ok _ => Part.andThen ⟨[.patch call before], after, none⟩ (bench.patchedPart request value line) := by
  rw [← line_for_replacement]
  rfl

end Bench

def Runner.reference {σ : Type} (runner : Runner σ) (request : Request) (workplace : Workplace σ) : Part σ :=
  runner.bench.sweepPart runner.policy request workplace.bench

def Runner.shown {σ : Type} (runner : Runner σ) : Deed σ → List (Event σ)
  | .patch call before =>
      .patched call (runner.bench.patch call before).answer :: (runner.bench.patch call before).records.map .log
  | .say message =>
      if runner.tellsProgress then [.log ⟨.debug, .sweep, message, []⟩, .progress message]
      else [.log ⟨.info, .sweep, message, []⟩]
  | .spawn step before =>
      .spawned step before ::
        (runner.bench.spawnRecords step before (runner.bench.spawn step before).answer).map .log
  | .report result =>
      if runner.tellsResults then [.log ⟨.debug, .sweep, result.line, []⟩, .result result]
      else [.log ⟨.info, .sweep, result.line, []⟩]
  | .note failure =>
      [.log ⟨.error, .sweep, "Sweep value failed, continuing",
        [("value", .ofOption failure.value), ("step", .ofOption failure.step),
         ("error", .text failure.error.message)]⟩]

-- No signal is caught during the call, and none is the reason for giving it up.
def Deed.IsCalm {σ : Type} (bench : Bench σ) (catches : Int → Bool) : Deed σ → Prop
  | .patch call before => caught catches (bench.patch call before).signals = none
  | .spawn step before => caught catches (bench.spawn step before).signals = none ∧
      ∀ signal, (bench.spawn step before).answer ≠ .error (.interrupt signal)
  | _ => True

def Part.IsCalm {σ : Type} (bench : Bench σ) (catches : Int → Bool) (part : Part σ) : Prop :=
  ∀ deed ∈ part.deeds, deed.IsCalm bench catches

section Parts

variable {σ : Type}

theorem and_then_halted (part : Part σ) (next : σ → Part σ) (halt : Halt) (halted : part.halt = some halt) :
    part.andThen next = part := by
  rw [Part.andThen, halted]

theorem and_then_next (part : Part σ) (next : σ → Part σ) (going : part.halt = none) :
    part.andThen next = ⟨part.deeds ++ (next part.bench).deeds, (next part.bench).bench, (next part.bench).halt⟩ := by
  rw [Part.andThen, going]

theorem calm_then (part : Part σ) (next : σ → Part σ) (bench : Bench σ) (catches : Int → Bool)
    (calm : (part.andThen next).IsCalm bench catches) :
    part.IsCalm bench catches ∧ (part.halt = none → (next part.bench).IsCalm bench catches) := by
  cases stopped : part.halt with
  | some halt =>
      rw [and_then_halted part next halt stopped] at calm
      exact ⟨calm, fun same => absurd same (Option.some_ne_none halt)⟩
  | none =>
      rw [and_then_next part next stopped] at calm
      obtain ⟨early, late⟩ := List.forall_mem_append.mp calm
      exact ⟨early, fun _ => late⟩

theorem step_part_kind (bench : Bench σ) (catches : Int → Bool) (value : Option Int) (index : Int) (step : Step)
    (before : σ) (error : SweepError)
    (calm : (bench.stepPart value index step before).IsCalm bench catches)
    (halted : (bench.stepPart value index step before).halt = some (.error error)) : error.isOfStep = true := by
  rw [Bench.stepPart] at calm halted
  cases named : stepMessage value index step with
  | error fault =>
      rw [named] at halted
      cases halted
  | ok message =>
      rw [named] at calm halted
      dsimp only at calm halted
      cases answer : (bench.spawn step before).answer with
      | error stop =>
          rw [answer] at calm halted
          cases stop with
          | failure cause =>
              cases halted
              rfl
          | fault fault => cases halted
          | interrupt signal =>
              have calmly : (Deed.spawn step before).IsCalm bench catches := calm _ (by simp)
              exact absurd answer (calmly.2 signal)
      | ok measured =>
          rw [answer] at halted
          dsimp only at halted
          split at halted
          · cases halted
          · cases halted
            rfl

theorem steps_part_kind (bench : Bench σ) (catches : Int → Bool) (value : Option Int) (index : Int) (steps : List Step)
    (before : σ) (error : SweepError)
    (calm : (bench.stepsPart value index steps before).IsCalm bench catches)
    (halted : (bench.stepsPart value index steps before).halt = some (.error error)) : error.isOfStep = true := by
  induction steps generalizing index before with
  | nil => cases halted
  | cons step rest ih =>
      rw [Bench.stepsPart] at calm halted
      obtain ⟨early, late⟩ := calm_then _ _ bench catches calm
      cases stopped : (bench.stepPart value index step before).halt with
      | some halt =>
          rw [and_then_halted _ _ halt stopped] at halted
          exact step_part_kind bench catches value index step before error early halted
      | none =>
          rw [and_then_next _ _ stopped] at halted
          exact ih (index + 1) _ (late stopped) halted

theorem settled_then (policy : Policy) (value : Int) (deeds : List (Deed σ)) (bench : σ) (next : σ → Part σ) :
    (Part.andThen ⟨deeds, bench, none⟩ next).settled policy value =
      Part.andThen ⟨deeds, bench, none⟩ fun before => (next before).settled policy value := by
  simp only [Part.andThen]
  rcases next bench with ⟨more, last, _ | error | fault⟩ <;> cases policy <;> simp [Part.settled]

theorem settled_errorless (policy : Policy) (value : Int) (part : Part σ)
    (errorless : Errorless part.halt) : part.settled policy value = part := by
  rcases part with ⟨deeds, bench, _ | error | fault⟩
  · cases policy <;> rfl
  · exact absurd rfl (errorless error)
  · cases policy <;> rfl

theorem settled_halted (policy : Policy) (value : Int) (part : Part σ) (halt : Halt)
    (halted : (part.settled policy value).halt = some halt) : part.halt = some halt := by
  rcases part with ⟨deeds, bench, _ | error | fault⟩ <;> cases policy <;> cases halted <;> rfl

theorem settled_deeds (policy : Policy) (value : Int) (part : Part σ) :
    part.deeds <+: (part.settled policy value).deeds := by
  rcases part with ⟨deeds, bench, _ | error | fault⟩ <;> cases policy
  case some.error.goOn => exact List.prefix_append deeds _
  all_goals exact List.prefix_refl deeds

theorem settled_calm_iff (policy : Policy) (value : Int) (part : Part σ) (bench : Bench σ) (catches : Int → Bool) :
    (part.settled policy value).IsCalm bench catches ↔ part.IsCalm bench catches := by
  constructor
  · intro calm deed done
    exact calm deed ((settled_deeds policy value part).subset done)
  · intro calm
    rcases part with ⟨deeds, last, _ | error | fault⟩ <;> cases policy
    case some.error.goOn => exact List.forall_mem_append.mpr ⟨calm, List.forall_mem_singleton.mpr trivial⟩
    all_goals exact calm

end Parts

end ConstantSweep.Sweep

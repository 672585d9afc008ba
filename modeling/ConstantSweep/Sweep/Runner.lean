import ConstantSweep.Sweep.Bench
import ConstantSweep.Sweep.Plan
import ConstantSweep.Text.Blank

set_option autoImplicit false

namespace ConstantSweep.Sweep

open ConstantSweep.Text
open ConstantSweep.Signal

inductive Event (σ : Type) where
  | patched (call : PatchCall) (answer : Except PatchStop Text)
  | spawned (step : Step) (before : σ)
  | progress (message : Text)
  | result (result : StepResult)
  | log (record : Log.Record)

inductive Halt where
  | error (error : SweepError)
  | fault (fault : Fault)
  deriving Repr

structure State (σ : Type) where
  bench : σ
  forwarder : Forwarder
  firstLine : Option Text
  outcome : Outcome
  trace : List (Event σ)

abbrev Action (σ : Type) := State σ → State σ × Option Halt

def Action.andThen {σ : Type} (first second : Action σ) : Action σ := fun state =>
  match first state with
  | (after, none) => second after
  | stopped => stopped

namespace State

variable {σ : Type}

def addEvent (state : State σ) (event : Event σ) : State σ :=
  { state with trace := state.trace ++ [event] }

def addEvents (state : State σ) (events : List (Event σ)) : State σ :=
  { state with trace := state.trace ++ events }

def addRecord (state : State σ) (level : Log.Level) (message : Text)
    (details : List (String × Log.Detail)) : State σ :=
  state.addEvent (.log ⟨level, .sweep, message, details⟩)

def check (value step : Option Int) : Action σ := fun state =>
  match state.forwarder.check with
  | (none, _) => (state, none)
  | (some signal, forwarder) =>
      ({ state with forwarder := forwarder }, some (.error (.interrupted signal value step)))

def noteFirstLine (state : State σ) (line : Text) : State σ :=
  match state.firstLine with
  | none => { state with firstLine := some line }
  | some _ => state

end State

structure Request where
  config : SweepConfig
  steps : Int → Except Fault (List Step)
  setup : List Step
  restore : Bool
  dryRun : Bool

structure Runner (σ : Type) where
  bench : Bench σ
  policy : Policy
  tellsProgress : Bool
  tellsResults : Bool

namespace SpawnStop

-- An interruption that is noticed outside keeps its message, but belongs to the step that was running.
def halt (stop : SpawnStop) (value : Option Int) (step : Int) : Halt :=
  match stop with
  | .failure cause => .error ⟨.spawn cause, value, some step⟩
  | .interrupt signal => .error ((SweepError.interrupted signal none none).located value (some step))
  | .fault cause => .fault cause

end SpawnStop

namespace Measured

def result (measured : Measured) (value : Option Int) (index : Int) (step : Step) : StepResult where
  value := value
  step := index
  command := step.command
  exitCode := measured.exitCode
  elapsed := measured.elapsed
  maxMemory := measured.maxMemory
  stdout := measured.stdout
  stderr := measured.stderr
  description := step.description
  cpu := measured.cpu

end Measured

def SweepError.isOfStep (error : SweepError) : Bool :=
  match error.cause with
  | .spawn _ => true
  | .execution _ _ _ => true
  | _ => false

def trimmed (line : Text) : Text := ⟨trim isBlank line.toList⟩

def stepMessage (value : Option Int) (index : Int) (step : Step) : Except Fault Text :=
  step.label.map fun label =>
    "value=" ++ StepResult.valueText value ++ " step=" ++ toString index ++ ": " ++ label

def valueMessage (value : Int) (line : Text) : Text :=
  "sweeping with " ++ trimmed line ++ " (value=" ++ toString value ++ ")"

namespace Runner

variable {σ : Type}

def tell (runner : Runner σ) (message : Text) (state : State σ) : State σ :=
  if runner.tellsProgress then (state.addRecord .debug message []).addEvent (.progress message)
  else state.addRecord .info message []

def tellResult (runner : Runner σ) (result : StepResult) (state : State σ) : State σ :=
  if runner.tellsResults then (state.addRecord .debug result.line []).addEvent (.result result)
  else state.addRecord .info result.line []

def patch (runner : Runner σ) (call : PatchCall) (state : State σ) : State σ × Except PatchStop Text :=
  let reply := runner.bench.patch call state.bench
  (({ state with
      bench := reply.state
      forwarder := state.forwarder.deliverAll reply.signals }.addEvent (.patched call reply.answer)).addEvents
        (reply.records.map Event.log), reply.answer)

def spawn (runner : Runner σ) (step : Step) (state : State σ) : State σ × Except SpawnStop Measured :=
  let supervised := runner.bench.supervise step state.forwarder state.bench
  let started := if supervised.tried then [Event.spawned step state.bench] else []
  ({ state with bench := supervised.state, forwarder := supervised.forwarder }.addEvents
    (started ++ (supervised.before ++ supervised.after).map Event.log), supervised.answer)

def runStep (runner : Runner σ) (value : Option Int) (index : Int) (step : Step) : Action σ :=
  Action.andThen (State.check value (some index)) fun state =>
    match stepMessage value index step with
    | .error fault => (state, some (.fault fault))
    | .ok message =>
        match runner.spawn step (runner.tell message state) with
        | (after, .error stop) => (after, some (stop.halt value index))
        | (after, .ok measured) =>
            let result := measured.result value index step
            (runner.tellResult result { after with outcome := after.outcome.addResult result },
              if result.isOk then none else some (.error (.stepFailed value index result.exitCode)))

def runSteps (runner : Runner σ) (value : Option Int) (index : Int) : List Step → Action σ
  | [] => fun state => (state, none)
  | step :: rest => (runner.runStep value index step).andThen (runner.runSteps value (index + 1) rest)

def giveUp (runner : Runner σ) (failure : SweepFailure) (state : State σ) : State σ × Option Halt :=
  match runner.policy with
  | .failFast => (state, some (.error failure.error))
  | .goOn =>
      let noted := state.addRecord .error "Sweep value failed, continuing"
        [("value", .ofOption failure.value), ("step", .ofOption failure.step),
         ("error", .text failure.error.message)]
      ({ noted with outcome := noted.outcome.addFailure failure }, none)

def runPatched (runner : Runner σ) (request : Request) (value : Int) (line : Text) : Action σ :=
  Action.andThen (State.check (some value) none) fun state =>
    let told := runner.tell (valueMessage value line) state
    match request.steps value with
    | .error fault => (told, some (.fault fault))
    | .ok steps =>
        match runner.runSteps (some value) 1 steps told with
        | (after, some (.error error)) =>
            if error.isOfStep then runner.giveUp ⟨some value, error.step, error⟩ after
            else (after, some (.error error))
        | ended => ended

def runValue (runner : Runner σ) (request : Request) (value : Int) : Action σ := fun state =>
  match request.config.replacement value with
  | .error fault => (state, some (.fault fault))
  | .ok line =>
      match runner.patch ⟨⟨request.config.target, request.config.pattern, line⟩, some value⟩ state with
      | (after, .error (.fault fault)) => (after, some (.fault fault))
      | (after, .error (.failure failure)) =>
          runner.giveUp ⟨some value, none, ⟨.patch failure, some value, none⟩⟩ after
      | (after, .ok previous) => runner.runPatched request value line (after.noteFirstLine previous)

def runValues (runner : Runner σ) (request : Request) : List Int → Action σ
  | [] => fun state => (state, none)
  | value :: rest =>
      ((State.check (some value) none).andThen (runner.runValue request value)).andThen
        (runner.runValues request rest)

def runAll (runner : Runner σ) (request : Request) : Action σ :=
  (runner.runSteps none 1 request.setup).andThen (runner.runValues request request.config.values)

end Runner

inductive Ending where
  | completed (outcome : Outcome)
  | failed (error : SweepError) (outcome : Outcome)
  | crashed (fault : Fault)
  deriving Repr

def Ending.ofHalt (outcome : Outcome) (halt : Option Halt) : Ending :=
  match halt with
  | none => .completed outcome
  | some (.error error) => .failed error (outcome.addFailure (.ofError error))
  | some (.fault fault) => .crashed fault

namespace Runner

variable {σ : Type}

-- A failure to put the line back counts only where nothing else went wrong; a fault always counts.
def restoreLine (runner : Runner σ) (config : SweepConfig) (line : Text) (ending : Ending)
    (state : State σ) : State σ × Ending :=
  match runner.patch ⟨⟨config.target, config.pattern, line⟩, none⟩ state with
  | (after, .error (.fault fault)) => (after, .crashed fault)
  | (after, .error (.failure failure)) =>
      (after.addRecord .error "Could not restore original config line"
        [("target", .text config.target.text), ("error", .text failure.message)],
        match ending with
        | .completed _ => .failed ⟨.patch failure, none, none⟩ .empty
        | other => other)
  | (after, .ok _) =>
      (after.addRecord .info "Restored original config line" [("target", .text config.target.text)], ending)

def tellSteps (runner : Runner σ) (value : Option Int) (index : Int) (steps : List Step) (state : State σ) :
    State σ :=
  match steps with
  | [] => state
  | step :: rest =>
      runner.tellSteps value (index + 1) rest
        (runner.tell ("[dry-run] value=" ++ StepResult.valueText value ++ " step=" ++ toString index ++ ": " ++
          Text.intercalate " " step.command) state)

def tellValues (runner : Runner σ) (request : Request) : List Int → Action σ
  | [] => fun state => (state, none)
  | value :: rest => fun state =>
      match request.config.replacement value with
      | .error fault => (state, some (.fault fault))
      | .ok line =>
          let told := runner.tell
            ("[dry-run] patch " ++ request.config.target.text ++ " -> " ++ trimmed line) state
          match request.steps value with
          | .error fault => (told, some (.fault fault))
          | .ok steps => runner.tellValues request rest (runner.tellSteps (some value) 1 steps told)

end Runner

structure Workplace (σ : Type) where
  bench : σ
  forwarder : Forwarder
  firstLine : Option Text

def Workplace.on {σ : Type} (workplace : Workplace σ) (onMainThread : Bool) : Workplace σ :=
  { workplace with forwarder := workplace.forwarder.on onMainThread }

structure Finished (σ : Type) where
  workplace : Workplace σ
  trace : List (Event σ)
  ending : Ending

namespace Runner

variable {σ : Type}

def dryRun (runner : Runner σ) (request : Request) (workplace : Workplace σ) : Finished σ :=
  let start : State σ := ⟨workplace.bench, workplace.forwarder, workplace.firstLine, .empty, []⟩
  let (state, halt) :=
    runner.tellValues request request.config.values (runner.tellSteps none 1 request.setup start)
  ⟨⟨state.bench, state.forwarder, state.firstLine⟩, state.trace, .ofHalt state.outcome halt⟩

def realRun (runner : Runner σ) (request : Request) (workplace : Workplace σ) : Finished σ :=
  let start : State σ := ⟨workplace.bench, workplace.forwarder.enter, none, .empty, []⟩
  let (swept, halt) := runner.runAll request start
  let ending := Ending.ofHalt swept.outcome halt
  let (state, ending) :=
    match request.restore, swept.firstLine with
    | true, some line => runner.restoreLine request.config line ending swept
    | _, _ => (swept, ending)
  ⟨⟨state.bench, state.forwarder.leave, state.firstLine⟩, state.trace, ending⟩

def run (runner : Runner σ) (request : Request) (workplace : Workplace σ) : Finished σ :=
  if request.dryRun then runner.dryRun request workplace else runner.realRun request workplace

def runEach (runner : Runner σ) (workplace : Workplace σ) : List (Bool × Request) → List (Finished σ)
  | [] => []
  | (onMainThread, request) :: rest =>
      let finished := runner.run request (workplace.on onMainThread)
      finished :: runner.runEach finished.workplace rest

end Runner

end ConstantSweep.Sweep

import ConstantSweep.Proofs.Forwarder
import ConstantSweep.Sweep.Runner

set_option autoImplicit false

namespace ConstantSweep.Sweep

open ConstantSweep.Signal

-- A patch that was asked for. The turn says how many values have been taken up so far.
structure PatchDone (σ : Type) where
  turn : Nat
  call : PatchCall
  before : σ
  answer : Except PatchStop Text
  signals : List Int

-- A process that was asked for: as the step with the index of a value, or of the setup.
structure SpawnDone (σ : Type) where
  turn : Nat
  value : Option Int
  index : Int
  step : Step
  before : σ
  answer : Except SpawnStop Measured
  signals : List Int

inductive Call (σ : Type) where
  | patch (done : PatchDone σ)
  | spawn (done : SpawnDone σ)

def PatchStop.failure? (value : Int) : PatchStop → Option SweepFailure
  | .failure cause => some ⟨some value, none, ⟨.patch cause, some value, none⟩⟩
  | .fault _ => none

namespace Call

variable {σ : Type}

def before : Call σ → σ
  | .patch done => done.before
  | .spawn done => done.before

def signals : Call σ → List Int
  | .patch done => done.signals
  | .spawn done => done.signals

def turn : Call σ → Nat
  | .patch done => done.turn
  | .spawn done => done.turn

def isRestore : Call σ → Bool
  | .patch done => done.call.value.isNone
  | .spawn _ => false

def result? : Call σ → Option StepResult
  | .patch _ => none
  | .spawn done =>
      match done.answer with
      | .ok measured => some (measured.result done.value done.index done.step)
      | .error _ => none

-- What is wrong with a call for a value when the sweep can do without the value.
def failure? : Call σ → Option SweepFailure
  | .patch done =>
      match done.call.value, done.answer with
      | some value, .error stop => stop.failure? value
      | _, _ => none
  | .spawn done =>
      match done.value, done.answer with
      | some value, .error (.failure failure) =>
          some ⟨some value, some done.index, ⟨.spawn failure, some value, some done.index⟩⟩
      | some value, .ok measured =>
          if measured.exitCode = 0 then none
          else some ⟨some value, some done.index, .stepFailed (some value) done.index measured.exitCode⟩
      | _, _ => none

def previous? : Call σ → Option Text
  | .patch done =>
      match done.call.value, done.answer with
      | some _, .ok previous => some previous
      | _, _ => none
  | .spawn _ => none

end Call

section Calls

variable {σ : Type}

def resultsOf (calls : List (Call σ)) : List StepResult := calls.filterMap Call.result?

def firstPrevious (calls : List (Call σ)) : Option Text := calls.findSome? Call.previous?

def Policy.keep (policy : Policy) (failures : List SweepFailure) : List SweepFailure :=
  match policy with
  | .failFast => []
  | .goOn => failures

def recordedBy (policy : Policy) (calls : List (Call σ)) : List SweepFailure :=
  policy.keep (calls.filterMap Call.failure?)

theorem keep_nil (policy : Policy) : policy.keep [] = [] := by
  cases policy <;> rfl

-- Of a list with one more item at its end, an item is that one, or stands in the list with what follows it there.
theorem concat_split {α : Type} (items before after : List α) (last one : α)
    (split : items ++ [last] = before ++ one :: after) :
    (before = items ∧ one = last ∧ after = []) ∨ ∃ rest, after = rest ++ [last] ∧ items = before ++ one :: rest := by
  rcases List.eq_nil_or_concat after with rfl | ⟨rest, other, rfl⟩
  · obtain ⟨rfl, same⟩ := List.append_inj' split rfl
    exact .inl ⟨rfl, (List.singleton_inj.mp same).symm, rfl⟩
  · rw [List.concat_eq_append, ← List.cons_append, ← List.append_assoc] at split
    obtain ⟨rfl, same⟩ := List.append_inj' split rfl
    exact .inr ⟨rest, by rw [List.concat_eq_append, List.singleton_inj.mp same], rfl⟩

theorem results_append (first second : List (Call σ)) :
    resultsOf (first ++ second) = resultsOf first ++ resultsOf second := List.filterMap_append

theorem first_previous_append (first second : List (Call σ)) :
    firstPrevious (first ++ second) = (firstPrevious first).or (firstPrevious second) := List.findSome?_append

theorem recorded_append (policy : Policy) (first second : List (Call σ)) :
    recordedBy policy (first ++ second) = recordedBy policy first ++ recordedBy policy second := by
  rw [recordedBy, List.filterMap_append]
  cases policy <;> rfl

end Calls

-- Where the reading of a trace has got to: the state of the bench, the value at work and its next step.
structure Cursor (σ : Type) where
  bench : σ
  turn : Nat
  value : Option Int
  index : Int

namespace Bench

variable {σ : Type}

def patchDone (bench : Bench σ) (turn : Nat) (call : PatchCall) (before : σ) : PatchDone σ :=
  ⟨turn, call, before, (bench.patch call before).answer, (bench.patch call before).signals⟩

def spawnDone (bench : Bench σ) (catches : Int → Bool) (turn : Nat) (value : Option Int) (index : Int) (step : Step)
    (before : σ) : SpawnDone σ :=
  ⟨turn, value, index, step, before, bench.told catches step before, (bench.spawn step before).signals⟩

def turnAfter (turn : Nat) (call : PatchCall) : Nat := if call.value.isSome then turn + 1 else turn

def follow (bench : Bench σ) (catches : Int → Bool) (cursor : Cursor σ) : Event σ → List (Call σ) × Cursor σ
  | .patched call _ =>
      ([.patch (bench.patchDone (turnAfter cursor.turn call) call cursor.bench)],
        ⟨(bench.patch call cursor.bench).state, turnAfter cursor.turn call, call.value, 1⟩)
  | .spawned step before =>
      ([.spawn (bench.spawnDone catches cursor.turn cursor.value cursor.index step before)],
        { cursor with bench := (bench.spawn step before).state, index := cursor.index + 1 })
  | _ => ([], cursor)

def readTrace (bench : Bench σ) (catches : Int → Bool) (cursor : Cursor σ) : List (Event σ) → List (Call σ) × Cursor σ
  | [] => ([], cursor)
  | event :: rest =>
      let first := bench.follow catches cursor event
      let later := bench.readTrace catches first.2 rest
      (first.1 ++ later.1, later.2)

theorem read_trace_append (bench : Bench σ) (catches : Int → Bool) (cursor : Cursor σ) (first second : List (Event σ)) :
    bench.readTrace catches cursor (first ++ second) =
      ((bench.readTrace catches cursor first).1 ++
          (bench.readTrace catches (bench.readTrace catches cursor first).2 second).1,
        (bench.readTrace catches (bench.readTrace catches cursor first).2 second).2) := by
  induction first generalizing cursor with
  | nil => rfl
  | cons event rest ih =>
      rw [List.cons_append, readTrace, readTrace, ih]
      simp only [List.append_assoc]

end Bench

def Event.isQuiet {σ : Type} : Event σ → Bool
  | .patched _ _ => false
  | .spawned _ _ => false
  | _ => true

theorem Bench.read_trace_quiet {σ : Type} (bench : Bench σ) (catches : Int → Bool) (cursor : Cursor σ)
    (events : List (Event σ)) (quiet : ∀ event ∈ events, event.isQuiet = true) :
    bench.readTrace catches cursor events = ([], cursor) := by
  induction events with
  | nil => rfl
  | cons event rest ih =>
      have later := ih fun other member => quiet other (List.mem_cons_of_mem _ member)
      have here := quiet event (List.mem_cons_self ..)
      cases event with
      | patched call answer => cases here
      | spawned step before => cases here
      | progress message => exact later
      | result result => exact later
      | log record => exact later

def Runner.calls {σ : Type} (runner : Runner σ) (request : Request) (workplace : Workplace σ) : List (Call σ) :=
  (runner.bench.readTrace workplace.forwarder.enter.catches ⟨workplace.bench, 0, none, 1⟩
    (runner.run request workplace).trace).1

end ConstantSweep.Sweep

import ConstantSweep.Proofs.Accounting
import ConstantSweep.Proofs.Aftermath
import ConstantSweep.Proofs.Template

set_option autoImplicit false

namespace ConstantSweep.Sweep

open ConstantSweep.Text

-- A value and the index of one of its steps; without a value it is the setup, and without an index the value's patch.
abbrev Place := Option Int × Option Int

namespace Request

variable {σ : Type} (request : Request)

def start : Option Place :=
  match request.setup with
  | [] => request.config.values.head?.map fun value => (some value, none)
  | _ :: _ => some (none, some 1)

-- Where a sweep stands after a call: at the process that was given up, before the next step, right after the patch, or
-- before the next value.
def placeAfter (call : Call σ) : Option Place :=
  if call.isChecked request then
    match call with
    | .patch done => some (done.call.value, none)
    | .spawn done =>
        match done.answer with
        | .ok _ => some (done.value, some (done.index + 1))
        | .error _ => some (done.value, some done.index)
  else request.config.values[call.turn]?.map fun value => (some value, none)

def place (calls : List (Call σ)) : Option Place :=
  match calls.getLast? with
  | none => request.start
  | some last => request.placeAfter last

end Request

section Noticing

variable {σ : Type} {bench : Bench σ} {catches : Int → Bool} {turn : Nat} {value : Option Int} {index : Int}
  {calls : List (Call σ)} {start last : Standing σ} {halt : Option Halt} {policy : Policy} {request : Request}

-- How an interruption is noticed: before the first call, which is made at the entry; after a call, by the run itself;
-- or by whoever ran a process, who does not know where the sweep is.
inductive Noticed (request : Request) (entry : Place) (start : Standing σ) (calls : List (Call σ)) (error : SweepError) :
    Prop where
  | atOnce (signal : Int) : calls = [] → start.flag = some signal → error = .interrupted signal entry.1 entry.2 →
      Noticed request entry start calls error
  | between (early : List (Call σ)) (call : Call σ) (place : Place) (signal : Int) : calls = early ++ [call] →
      call.isInterrupt = false → request.placeAfter call = some place →
      error = .interrupted signal place.1 place.2 → Noticed request entry start calls error
  | within (early : List (Call σ)) (done : SpawnDone σ) (signal : Int) : calls = early ++ [.spawn done] →
      done.answer = .error (.interrupt signal) →
      error = (SweepError.interrupted signal none none).located done.value (some done.index) →
      Noticed request entry start calls error

theorem noticed_append {entry next : Place} {first later : List (Call σ)} {middle : Standing σ} {error : SweepError}
    (noticed : Noticed request next middle later error)
    (joint : middle.flag ≠ none → ∃ early call, first = early ++ [call] ∧ call.isInterrupt = false ∧
      request.placeAfter call = some next) : Noticed request entry start (first ++ later) error := by
  cases noticed with
  | atOnce signal nothing flag same =>
      obtain ⟨early, call, rfl, calm, place⟩ := joint (by simp [flag])
      rw [nothing, List.append_nil]
      exact .between early call next signal rfl calm place same
  | between early call place signal split calm placed same =>
      rw [split, ← List.append_assoc]
      exact .between (first ++ early) call place signal rfl calm placed same
  | within early done signal split answer same =>
      rw [split, ← List.append_assoc]
      exact .within (first ++ early) done signal rfl answer same

theorem noticed_quiet {entry : Place} (other : Place) {error : SweepError} (quiet : start.flag = none)
    (noticed : Noticed request entry start calls error) : Noticed request other start calls error := by
  cases noticed with
  | atOnce signal nothing flag same => cases quiet.symm.trans flag
  | between early call place signal split calm placed same => exact .between early call place signal split calm placed same
  | within early done signal split answer same => exact .within early done signal split answer same

theorem step_noticed (step : Step) (error : SweepError) (interrupted : error.isInterrupt = true)
    (course : StepCourse bench catches turn value index step start calls last (some (.error error))) :
    Noticed request (value, some index) start calls error := by
  generalize ended : some (Halt.error error) = halt at course
  cases course with
  | noticed signal flag =>
      cases ended
      exact .atOnce signal rfl flag rfl
  | nameless fault quiet named => cases ended
  | stopped stop quiet told =>
      cases stop with
      | failure cause =>
          cases ended
          cases interrupted
      | interrupt signal =>
          cases ended
          exact .within [] _ signal rfl told rfl
      | fault fault => cases ended
  | failed measured quiet told bad =>
      cases ended
      cases interrupted
  | passed measured quiet told zero => cases ended

theorem passed_call (step : Step) (course : StepCourse bench catches turn value index step start calls last none) :
    start.flag = none ∧ ∃ done measured, calls = [.spawn done] ∧ done.turn = turn ∧ done.value = value ∧
      done.index = index ∧ done.answer = .ok measured ∧ measured.exitCode = 0 := by
  cases course with
  | passed measured quiet told zero => exact ⟨quiet, _, measured, rfl, rfl, rfl, rfl, told, zero⟩

theorem steps_noticed (steps : List Step) (error : SweepError) (interrupted : error.isInterrupt = true)
    (counted : index + steps.length = request.stepCount value + 1)
    (course : StepsCourse bench catches turn value index steps start calls last (some (.error error))) :
    steps ≠ [] ∧ Noticed request (value, some index) start calls error := by
  generalize ended : some (Halt.error error) = halt at course
  induction course with
  | done index start => cases ended
  | halted index step rest start calls last halt first =>
      cases ended
      exact ⟨List.cons_ne_nil _ _, step_noticed step error interrupted first⟩
  | next index step rest start calls later middle last halt first ran ih =>
      obtain ⟨given, noticed⟩ := ih (by rw [← counted, List.length_cons]; omega) ended
      refine ⟨List.cons_ne_nil _ _, noticed_append noticed fun _ => ?_⟩
      obtain ⟨_, done, measured, rfl, _, rfl, rfl, answer, zero⟩ := passed_call step first
      have further : done.index < request.stepCount done.value := by
        have more := List.length_pos_iff.mpr given
        rw [List.length_cons] at counted
        omega
      have checked : Call.isChecked request (.spawn done) = true := by
        simp only [Call.isChecked, answer, zero, beq_self_eq_true, Bool.true_and, decide_eq_true further]
      refine ⟨[], .spawn done, rfl, ?_, ?_⟩
      · simp only [Call.isInterrupt, answer]
      · rw [Request.placeAfter, if_pos checked]
        simp only [answer]

def ClosedBy (request : Request) (turn : Nat) (calls : List (Call σ)) : Prop :=
  ∃ early call, calls = early ++ [call] ∧ call.isChecked request = false ∧ call.turn = turn

theorem unchecked_calm (call : Call σ) (unchecked : call.isChecked request = false) : call.isInterrupt = false := by
  cases call with
  | patch done => rfl
  | spawn done =>
      rw [Call.isInterrupt]
      split
      · rename_i signal answer
        simp only [Call.isChecked, answer, Bool.true_eq_false] at unchecked
      · rfl

theorem place_closed (call : Call σ) (unchecked : call.isChecked request = false) :
    request.placeAfter call = request.config.values[call.turn]?.map fun value => (some value, none) := by
  simp [Request.placeAfter, unchecked]

theorem closed_append (first later : List (Call σ)) (closed : ClosedBy request turn later) :
    ClosedBy request turn (first ++ later) := by
  obtain ⟨early, call, rfl, unchecked, same⟩ := closed
  exact ⟨first ++ early, call, (List.append_assoc first early [call]).symm, unchecked, same⟩

theorem step_closed (step : Step) (halt : Halt) (quiet : start.flag = none) (calm : interrupts (some halt) = false)
    (waits : last.flag ≠ none)
    (course : StepCourse bench catches turn value index step start calls last (some halt)) :
    ClosedBy request turn calls := by
  cases course with
  | noticed signal flag => cases quiet.symm.trans flag
  | nameless fault _ named => exact absurd quiet waits
  | stopped stop _ told =>
      refine ⟨[], _, rfl, ?_, rfl⟩
      cases stop with
      | interrupt signal => cases calm
      | failure cause => simp only [Call.isChecked, Bench.spawnDone, told]
      | fault fault => simp only [Call.isChecked, Bench.spawnDone, told]
  | failed measured _ told bad =>
      refine ⟨[], _, rfl, ?_, rfl⟩
      simp only [Call.isChecked, Bench.spawnDone, told, beq_false_of_ne bad, Bool.false_and]

-- Steps that end without an interruption, but with a signal that waits, have made a call, and the last one ends them.
theorem steps_closed (steps : List Step) (calm : interrupts halt = false) (quiet : start.flag = none)
    (waits : last.flag ≠ none) (counted : index + steps.length = request.stepCount value + 1)
    (course : StepsCourse bench catches turn value index steps start calls last halt) : ClosedBy request turn calls := by
  induction course with
  | done index start => exact absurd quiet waits
  | halted index step rest start calls last halt first => exact step_closed step halt quiet calm waits first
  | next index step rest start calls later middle last halt first ran ih =>
      by_cases flagged : middle.flag = none
      · refine closed_append calls later (ih calm flagged waits ?_)
        rw [← counted, List.length_cons]
        omega
      · -- The signal came during this step; unless it was the last one, the next step would have asked.
        obtain ⟨nothing, interrupted, _⟩ := steps_flagged rest flagged ran
        rw [calm] at interrupted
        have none : rest = [] := by simpa using interrupted.symm
        subst none
        obtain ⟨_, done, measured, rfl, sameTurn, rfl, rfl, answer, zero⟩ := passed_call step first
        rw [nothing]
        refine ⟨[], .spawn done, rfl, ?_, sameTurn⟩
        rw [List.length_singleton] at counted
        have final : ¬ done.index < request.stepCount done.value := by omega
        simp only [Call.isChecked, answer, decide_eq_false final, Bool.and_false]

theorem settle_error (error : SweepError) (settled : policy.settle halt = some (.error error)) :
    halt = some (.error error) := by
  rcases halt with _ | (cause | fault)
  · cases settled
  · rw [Policy.settle] at settled
    split at settled
    · cases policy <;> cases settled
      rfl
    · exact settled
  · cases settled

theorem patched_noticed (taken : Int) (error : SweepError) (interrupted : error.isInterrupt = true)
    (course : PatchedCourse bench catches policy request turn taken start calls last (some (.error error))) :
    Noticed request (some taken, none) start calls error := by
  generalize ended : some (Halt.error error) = halt at course
  cases course with
  | noticed signal flag =>
      cases ended
      exact .atOnce signal rfl flag rfl
  | stepless fault quiet factory => cases ended
  | ran steps calls last halt quiet factory ran =>
      rw [settle_error error ended.symm] at ran
      exact noticed_quiet _ quiet (steps_noticed steps error interrupted (steps_counted request (some taken) steps factory) ran).2

theorem value_noticed (taken : Int) (entry : Place) (error : SweepError) (interrupted : error.isInterrupt = true)
    (course : ValueCourse bench catches policy request turn taken start calls last (some (.error error))) :
    Noticed request entry start calls error := by
  generalize ended : some (Halt.error error) = halt at course
  cases course with
  | unrendered fault rendered => cases ended
  | crashed line fault rendered answer => cases ended
  | unpatched line failure rendered answer =>
      cases policy <;> cases ended
      cases interrupted
  | patched line previous calls last halt rendered answer patched =>
      cases ended
      have noticed := patched_noticed taken error interrupted patched
      change Noticed request entry start ([_] ++ calls) error
      refine noticed_append noticed fun _ => ⟨[], _, rfl, rfl, ?_⟩
      have checked : Call.isChecked request
          (.patch (bench.patchDone turn (request.patchCall (some taken) line) start.bench)) = true := by
        simp only [Call.isChecked, Bench.patchDone, answer]
        rfl
      rw [Request.placeAfter, if_pos checked]
      rfl

theorem value_closed (taken : Int) (waits : last.flag ≠ none)
    (course : ValueCourse bench catches policy request turn taken start calls last none) : ClosedBy request turn calls := by
  generalize ended : none = halt at course
  cases course with
  | unrendered fault rendered => cases ended
  | crashed line fault rendered answer => cases ended
  | unpatched line failure rendered answer =>
      refine ⟨[], _, rfl, ?_, rfl⟩
      simp only [Call.isChecked, Bench.patchDone, answer]
  | patched line previous calls last halt rendered answer patched =>
      cases patched with
      | noticed signal flag => cases ended
      | stepless fault quiet factory => cases ended
      | ran steps calls last halt quiet factory ran =>
          have calm : interrupts halt = false := by
            rw [← settle_interrupts policy halt, ← ended]
            rfl
          exact closed_append [_] calls (steps_closed steps calm quiet waits (steps_counted request (some taken) steps factory) ran)

theorem values_noticed (values : List Int) (left : request.config.values.drop turn = values) (error : SweepError)
    (interrupted : error.isInterrupt = true)
    (course : ValuesCourse bench catches policy request turn values start calls last (some (.error error))) :
    ∃ taken, values.head? = some taken ∧ Noticed request (some taken, none) start calls error := by
  generalize ended : some (Halt.error error) = halt at course
  induction course with
  | done turn start => cases ended
  | noticed turn taken rest start signal flag =>
      cases ended
      exact ⟨taken, rfl, .atOnce signal rfl flag rfl⟩
  | halted turn taken rest start calls last halt quiet ran =>
      cases ended
      exact ⟨taken, rfl, value_noticed taken _ error interrupted ran⟩
  | next turn taken rest start calls later middle last halt quiet ran others ih =>
      have remaining : request.config.values.drop (turn + 1) = rest := by
        rw [← List.drop_drop, left]
        rfl
      obtain ⟨following, first, noticed⟩ := ih remaining ended
      refine ⟨taken, rfl, noticed_append noticed fun waits => ?_⟩
      obtain ⟨early, call, rfl, unchecked, same⟩ := value_closed taken waits ran
      refine ⟨early, call, rfl, ?_, ?_⟩
      · exact unchecked_calm call unchecked
      · rw [place_closed call unchecked, same, ← List.head?_drop, remaining, first]
        rfl

theorem sweep_noticed (error : SweepError) (interrupted : error.isInterrupt = true)
    (course : SweepCourse bench catches policy request start calls last (some (.error error))) :
    ∃ entry, request.start = some entry ∧ Noticed request entry start calls error := by
  have counted := steps_counted request none request.setup rfl
  generalize ended : some (Halt.error error) = halt at course
  cases course with
  | halted calls last halt setup =>
      cases ended
      obtain ⟨given, noticed⟩ := steps_noticed request.setup error interrupted counted setup
      refine ⟨_, ?_, noticed⟩
      rw [Request.start]
      cases same : request.setup with
      | nil => exact absurd same given
      | cons step rest => rfl
  | prepared early later middle last halt setup values =>
      subst ended
      obtain ⟨taken, first, noticed⟩ := values_noticed request.config.values List.drop_zero error interrupted values
      cases same : request.setup with
      | nil =>
          rw [same] at setup
          cases setup
          refine ⟨(some taken, none), ?_, noticed⟩
          rw [Request.start, same, first]
          rfl
      | cons step rest =>
          refine ⟨(none, some 1), ?_, noticed_append noticed fun waits => ?_⟩
          · rw [Request.start, same]
          · by_cases quiet : start.flag = none
            · obtain ⟨early, call, rfl, unchecked, sameTurn⟩ := steps_closed request.setup rfl quiet waits counted setup
              refine ⟨early, call, rfl, unchecked_calm call unchecked, ?_⟩
              rw [place_closed call unchecked, sameTurn, ← List.head?_eq_getElem?, first]
              rfl
            · have interrupts := (steps_flagged request.setup quiet setup).2.1
              rw [same] at interrupts
              cases interrupts

theorem noticed_place (entry : Place) (error : SweepError) (first : request.start = some entry)
    (noticed : Noticed request entry start calls error) : request.place calls = some (error.value, error.step) := by
  cases noticed with
  | atOnce signal nothing flag same =>
      subst nothing same
      exact first
  | between early call place signal split calm placed same =>
      subst split same
      rw [Request.place, List.getLast?_concat]
      exact placed
  | within early done signal split answer same =>
      subst split same
      have checked : Call.isChecked request (.spawn done) = true := by
        simp only [Call.isChecked, answer]
      rw [Request.place, List.getLast?_concat]
      simp only [Request.placeAfter, checked, answer]
      rfl

end Noticing

section Messages

theorem message_parts (signal : Int) (value step : Option Int) :
    (Cause.interrupt signal value step).message.toList =
      (Text.ofString "Sweep interrupted by " ++ Signal.name signal ++ " (value=" ++ optionText value ++ ", step=").toList ++
        (Text.ofString (optionText step)).toList ++ [.char ')'] := rfl

theorem stepless_message (signal : Int) (value other : Option Int) (index : Int) :
    (Cause.interrupt signal value none).message ≠ (Cause.interrupt signal other (some index)).message := by
  intro same
  have letters := congrArg Text.toList same
  have shown : optionText (some index) = toString index := rfl
  rw [message_parts, message_parts, shown] at letters
  obtain ⟨given, numeric⟩ := Template.number_letters index
  have ends := congrArg List.getLast? (List.append_cancel_right letters)
  rw [List.getLast?_append_of_ne_nil _ (by decide), List.getLast?_append_of_ne_nil _ given] at ends
  have member : Letter.char 'e' ∈ (Text.ofString (toString index)).toList := List.mem_of_getLast? ends.symm
  obtain ⟨c, same, numeral⟩ := numeric _ member
  cases same
  rcases numeral with minus | digit
  · cases minus
  · cases digit

variable {σ : Type} {calls : List (Call σ)} {start : Standing σ} {request : Request}

-- An interruption that is noticed by the run knows its place from the first; one that is noticed by whoever ran a process
-- is told of it later, when its message has been made.
theorem noticed_message (entry : Place) (error : SweepError) (noticed : Noticed request entry start calls error) :
    ∃ signal value step, error.cause = .interrupt signal value step ∧
      (error.message = (Cause.interrupt signal error.value error.step).message ↔
        ∀ call, calls.getLast? = some call → call.isInterrupt = false) := by
  cases noticed with
  | atOnce signal nothing flag same =>
      subst nothing same
      refine ⟨signal, entry.1, entry.2, rfl, iff_of_true rfl ?_⟩
      intro call last
      cases last
  | between early call place signal split calm placed same =>
      subst split same
      refine ⟨signal, place.1, place.2, rfl, iff_of_true rfl ?_⟩
      intro other last
      rw [List.getLast?_concat] at last
      cases last
      exact calm
  | within early done signal split answer same =>
      subst split same
      refine ⟨signal, none, none, rfl, iff_of_false ?_ ?_⟩
      · exact stepless_message signal none done.value done.index
      · intro calm
        have uncalled := calm (.spawn done) List.getLast?_concat
        simp [Call.isInterrupt, answer] at uncalled

end Messages

-- The calls of the sweep itself, without the patch that puts the line back.
def sweptCalls {σ : Type} (calls : List (Call σ)) : List (Call σ) := calls.filter fun call => !call.isRestore

theorem swept_only {σ : Type} (calls : List (Call σ)) (unrestored : ∀ call ∈ calls, call.isRestore = false) :
    sweptCalls calls = calls := by
  rw [sweptCalls, List.filter_eq_self]
  intro call made
  rw [unrestored call made]
  rfl

theorem swept_restored {σ : Type} (calls : List (Call σ)) (restoring : Call σ)
    (unrestored : ∀ call ∈ calls, call.isRestore = false) (restores : restoring.isRestore = true) :
    sweptCalls (calls ++ [restoring]) = calls := by
  rw [sweptCalls, List.filter_append, ← sweptCalls, swept_only calls unrestored]
  simp [restores]

section Runs

variable {σ : Type} {bench : Bench σ} {catches : Int → Bool} {calls : List (Call σ)} {start : Standing σ}
  {policy : Policy} {request : Request}

-- An interruption that ends a run has been noticed in its sweep, and is the last failure that the run reports.
theorem run_noticed (final : σ) (ending : Ending) (error : SweepError) (outcome : Outcome)
    (course : RunCourse bench catches policy request start calls final ending)
    (raised : ending = .failed error outcome) (interrupted : error.isInterrupt = true) :
    (∃ entry, request.start = some entry ∧ Noticed request entry start (sweptCalls calls) error) ∧
      outcome.failures.getLast? = some (.ofError error) := by
  cases course with
  | told ending dry unfailing => exact absurd raised (unfailing error outcome)
  | swept calls last halt real swept unrestored =>
      obtain ⟨accounts, same⟩ := halt_accounts error outcome raised
      rw [same] at swept
      rw [swept_only calls (sweep_restores_nothing swept), accounts.2, List.getLast?_concat]
      exact ⟨sweep_noticed error interrupted swept, rfl⟩
  | restored early last halt line turn real swept restore found =>
      rcases restored_failed _ _ error outcome raised with ended | ⟨_, failure, _, rfl⟩
      · obtain ⟨accounts, same⟩ := halt_accounts error outcome ended
        rw [same] at swept
        rw [swept_restored early _ (sweep_restores_nothing swept) rfl, accounts.2, List.getLast?_concat]
        exact ⟨sweep_noticed error interrupted swept, rfl⟩
      · cases interrupted

end Runs

-- The error of an interrupted run names the place where the sweep stopped, and so does the last failure of its report.
-- Its message names the same place exactly if the run noticed the signal itself, and not while a process ran.
theorem interruption_names_its_place_iff {σ : Type} (runner : Runner σ) (request : Request) (workplace : Workplace σ)
    (error : SweepError) (outcome : Outcome) (raised : (runner.run request workplace).ending = .failed error outcome)
    (interrupted : error.isInterrupt = true) :
    request.place (sweptCalls (runner.calls request workplace)) = some (error.value, error.step) ∧
      outcome.failures.getLast? = some ⟨error.value, error.step, error⟩ ∧
      ∃ signal value step, error.cause = .interrupt signal value step ∧
        (error.message = (Cause.interrupt signal error.value error.step).message ↔
          ∀ call, (sweptCalls (runner.calls request workplace)).getLast? = some call → call.isInterrupt = false) := by
  obtain ⟨⟨entry, first, noticed⟩, last⟩ :=
    run_noticed _ _ error outcome (run_course runner request workplace) raised interrupted
  exact ⟨noticed_place entry error first noticed, last, noticed_message entry error noticed⟩

namespace Sample

def twofold : Request :=
  ⟨config, fun _ => .ok [⟨["a"], none, [], .null⟩, ⟨["b"], none, [], .null⟩], [], false, false⟩

def interrupting : Cue := { silent with interrupt := some 15 }

def interruption : Ending → Option (SweepError × Outcome)
  | .failed error outcome => if error.isInterrupt then some (error, outcome) else none
  | _ => none

end Sample

theorem sample_interruption (ending : Ending) (error : SweepError) (outcome : Outcome)
    (found : Sample.interruption ending = some (error, outcome)) :
    ending = .failed error outcome ∧ error.isInterrupt = true := by
  cases ending with
  | failed other kept =>
      rw [Sample.interruption] at found
      split at found
      · cases found
        exact ⟨rfl, by assumption⟩
      · cases found
  | completed kept => cases found
  | crashed fault => cases found

theorem interruption_names_its_place_iff_once :
    ∃ error outcome,
      (Sample.runner.run Sample.twofold (Sample.workplace Sample.stirred)).ending = .failed error outcome ∧
      error.isInterrupt = true ∧
      error.message = ("Sweep interrupted by SIGTERM (value=2, step=2)" : String) ∧
      Sample.twofold.place (sweptCalls (Sample.runner.calls Sample.twofold (Sample.workplace Sample.stirred))) =
        some (error.value, error.step) ∧
      outcome.failures.getLast? = some ⟨error.value, error.step, error⟩ := by
  have known : ((Sample.interruption
      (Sample.runner.run Sample.twofold (Sample.workplace Sample.stirred)).ending).any fun found =>
        found.1.message == (("Sweep interrupted by SIGTERM (value=2, step=2)" : String) : Text)) = true := by
    decide +kernel
  obtain ⟨⟨error, outcome⟩, found, message⟩ := (Option.any_eq_true _ _).mp known
  obtain ⟨raised, interrupted⟩ := sample_interruption _ error outcome found
  obtain ⟨place, last, _⟩ := interruption_names_its_place_iff Sample.runner Sample.twofold
    (Sample.workplace Sample.stirred) error outcome raised interrupted
  exact ⟨error, outcome, raised, interrupted, beq_iff_eq.mp message, place, last⟩

-- Whoever runs the first command gives it up. The error says where, and its message does not.
theorem given_up_step_is_not_named :
    ∃ error outcome,
      (Sample.runner.run Sample.twofold (Sample.workplace Sample.interrupting)).ending = .failed error outcome ∧
      error.isInterrupt = true ∧ error.value = some 2 ∧ error.step = some 1 ∧
      error.message = ("Sweep interrupted by SIGTERM (value=None, step=None)" : String) ∧
      error.message ≠ (Cause.interrupt 15 error.value error.step).message := by
  have known : ((Sample.interruption
      (Sample.runner.run Sample.twofold (Sample.workplace Sample.interrupting)).ending).any fun found =>
        found.1.value == some 2 && found.1.step == some 1 &&
          found.1.message == (("Sweep interrupted by SIGTERM (value=None, step=None)" : String) : Text)) = true := by
    decide +kernel
  obtain ⟨⟨error, outcome⟩, found, shown⟩ := (Option.any_eq_true _ _).mp known
  rw [Bool.and_eq_true, Bool.and_eq_true, beq_iff_eq, beq_iff_eq, beq_iff_eq] at shown
  obtain ⟨⟨value, step⟩, message⟩ := shown
  obtain ⟨raised, interrupted⟩ := sample_interruption _ error outcome found
  refine ⟨error, outcome, raised, interrupted, value, step, message, ?_⟩
  rw [value, step, message]
  exact stepless_message 15 none (some 2) 1

end ConstantSweep.Sweep

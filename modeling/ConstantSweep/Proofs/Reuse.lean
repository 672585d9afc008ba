import ConstantSweep.Proofs.Interruption
import ConstantSweep.Proofs.Past

set_option autoImplicit false

namespace ConstantSweep.Sweep

open ConstantSweep.Signal

structure Supervised.Like {σ : Type} (related : Forwarder → Forwarder → Prop) (first second : Supervised σ) : Prop where
  state : first.state = second.state
  tried : first.tried = second.tried
  before : first.before = second.before
  answer : first.answer = second.answer
  after : first.after = second.after
  forwarder : related first.forwarder second.forwarder

structure State.Like {σ : Type} (related : Forwarder → Forwarder → Prop) (first second : State σ) : Prop where
  bench : first.bench = second.bench
  firstLine : first.firstLine = second.firstLine
  outcome : first.outcome = second.outcome
  trace : first.trace = second.trace
  forwarder : related first.forwarder second.forwarder

-- A relation of forwarders that nothing which a run does with them breaks, and under which runs hear the same.
structure Bench.Treats {σ : Type} (bench : Bench σ) (related : Forwarder → Forwarder → Prop) : Prop where
  received : ∀ first second, related first second → first.received = second.received
  asked : ∀ first second, related first second → related first.check.2 second.check.2
  told : ∀ first second signals, related first second → related (first.deliverAll signals) (second.deliverAll signals)
  supervised : ∀ step before first second, related first second →
    Supervised.Like related (bench.supervise step first before) (bench.supervise step second before)

def Carries {σ α : Type} (related : Forwarder → Forwarder → Prop) (act : State σ → State σ × α) : Prop :=
  ∀ first second, State.Like related first second →
    State.Like related (act first).1 (act second).1 ∧ (act first).2 = (act second).2

section Carrying

variable {σ : Type} {related : Forwarder → Forwarder → Prop} {runner : Runner σ} {first second : State σ}

theorem like_events (added addedToo : List (Event σ)) (same : added = addedToo) (like : State.Like related first second) :
    State.Like related (first.addEvents added) (second.addEvents addedToo) := by
  refine ⟨like.bench, like.firstLine, like.outcome, ?_, like.forwarder⟩
  rw [State.addEvents, State.addEvents, like.trace, same]

theorem like_outcome (outcome outcomeToo : Outcome) (same : outcome = outcomeToo)
    (like : State.Like related first second) :
    State.Like related { first with outcome := outcome } { second with outcome := outcomeToo } :=
  ⟨like.bench, like.firstLine, same, like.trace, like.forwarder⟩

theorem like_first_line (line : Text) (like : State.Like related first second) :
    State.Like related (first.noteFirstLine line) (second.noteFirstLine line) := by
  rw [State.noteFirstLine, State.noteFirstLine, like.firstLine]
  cases second.firstLine with
  | none => exact ⟨like.bench, rfl, like.outcome, like.trace, like.forwarder⟩
  | some noted => exact like

theorem tell_like (runner : Runner σ) (message : Text) (like : State.Like related first second) :
    State.Like related (runner.tell message first) (runner.tell message second) := by
  unfold Runner.tell
  split
  · exact like_events _ _ rfl (like_events _ _ rfl like)
  · exact like_events _ _ rfl like

theorem tell_result_like (runner : Runner σ) (result : StepResult) (like : State.Like related first second) :
    State.Like related (runner.tellResult result first) (runner.tellResult result second) := by
  unfold Runner.tellResult
  split
  · exact like_events _ _ rfl (like_events _ _ rfl like)
  · exact like_events _ _ rfl like

theorem still_carries (halt : Option Halt) : Carries related fun (state : State σ) => (state, halt) :=
  fun _ _ like => ⟨like, rfl⟩

theorem then_carries (action actionOn : Action σ) (carries : Carries related action)
    (carriesOn : Carries related actionOn) : Carries related (action.andThen actionOn) := by
  intro first second like
  obtain ⟨likeOn, same⟩ := carries first second like
  rcases ran : action first with ⟨middle, halt⟩
  rcases ranToo : action second with ⟨middleToo, haltToo⟩
  rw [ran, ranToo] at likeOn same
  dsimp only at likeOn same
  subst same
  cases halt with
  | none =>
      rw [then_next action actionOn first middle ran, then_next action actionOn second middleToo ranToo]
      exact carriesOn middle middleToo likeOn
  | some halt =>
      rw [then_halted action actionOn first middle halt ran, then_halted action actionOn second middleToo halt ranToo]
      exact ⟨likeOn, rfl⟩

theorem check_carries (bench : Bench σ) (treats : bench.Treats related) (value step : Option Int) :
    Carries related (State.check value step : Action σ) := by
  intro first second like
  have same := treats.received _ _ like.forwarder
  cases flag : second.forwarder.received with
  | none =>
      rw [check_quiet value step second flag, check_quiet value step first (same.trans flag)]
      exact ⟨like, rfl⟩
  | some signal =>
      rw [check_flagged value step second signal flag, check_flagged value step first signal (same.trans flag)]
      exact ⟨⟨like.bench, like.firstLine, like.outcome, like.trace, treats.asked _ _ like.forwarder⟩, rfl⟩

theorem patch_carries (treats : runner.bench.Treats related) (call : PatchCall) :
    Carries related (runner.patch call) := by
  intro first second like
  rw [Runner.patch, Runner.patch, like.bench]
  refine ⟨like_events _ _ rfl (like_events _ _ rfl ⟨rfl, like.firstLine, like.outcome, like.trace, ?_⟩), rfl⟩
  exact treats.told _ _ _ like.forwarder

theorem spawn_carries (treats : runner.bench.Treats related) (step : Step) : Carries related (runner.spawn step) := by
  intro first second like
  have supervised := treats.supervised step second.bench _ _ like.forwarder
  rw [Runner.spawn, Runner.spawn, like.bench]
  refine ⟨like_events _ _ ?_ ⟨supervised.state, like.firstLine, like.outcome, like.trace, supervised.forwarder⟩,
    supervised.answer⟩
  rw [supervised.tried, supervised.before, supervised.after]

theorem run_step_carries (treats : runner.bench.Treats related) (value : Option Int) (index : Int) (step : Step) :
    Carries related (runner.runStep value index step) := by
  refine then_carries _ _ (check_carries runner.bench treats value (some index)) fun first second like => ?_
  cases stepMessage value index step with
  | error fault => exact ⟨like, rfl⟩
  | ok message =>
      obtain ⟨likeOn, same⟩ := spawn_carries treats step _ _ (tell_like runner message like)
      rcases spawned : runner.spawn step (runner.tell message first) with ⟨after, answer⟩
      rcases spawnedToo : runner.spawn step (runner.tell message second) with ⟨afterToo, answerToo⟩
      rw [spawned, spawnedToo] at likeOn same
      dsimp only at likeOn same ⊢
      subst same
      rw [spawned, spawnedToo]
      cases answer with
      | error stop => exact ⟨likeOn, rfl⟩
      | ok measured =>
          refine ⟨tell_result_like runner _ (like_outcome _ _ ?_ likeOn), rfl⟩
          rw [likeOn.outcome]

theorem run_steps_carries (treats : runner.bench.Treats related) (value : Option Int) (index : Int)
    (steps : List Step) : Carries related (runner.runSteps value index steps) := by
  induction steps generalizing index with
  | nil => exact still_carries none
  | cons step rest ih => exact then_carries _ _ (run_step_carries treats value index step) (ih (index + 1))

theorem give_up_carries (failure : SweepFailure) : Carries related (runner.giveUp failure) := by
  intro first second like
  unfold Runner.giveUp
  cases runner.policy with
  | failFast => exact ⟨like, rfl⟩
  | goOn =>
      refine ⟨like_outcome _ _ ?_ (like_events _ _ rfl like), rfl⟩
      exact congrArg (fun outcome => outcome.addFailure failure) like.outcome

theorem run_patched_carries (treats : runner.bench.Treats related) (request : Request) (value : Int) (line : Text) :
    Carries related (runner.runPatched request value line) := by
  refine then_carries _ _ (check_carries runner.bench treats (some value) none) fun first second like => ?_
  have told := tell_like runner (valueMessage value line) like
  dsimp only
  cases request.steps value with
  | error fault => exact ⟨told, rfl⟩
  | ok steps =>
      obtain ⟨likeOn, same⟩ := run_steps_carries treats (some value) 1 steps _ _ told
      rcases ran : runner.runSteps (some value) 1 steps (runner.tell (valueMessage value line) first) with ⟨after, halt⟩
      rcases ranToo : runner.runSteps (some value) 1 steps (runner.tell (valueMessage value line) second)
        with ⟨afterToo, haltToo⟩
      rw [ran, ranToo] at likeOn same
      dsimp only at likeOn same ⊢
      subst same
      rw [ran, ranToo]
      rcases halt with _ | error | fault
      · exact ⟨likeOn, rfl⟩
      · dsimp only
        split
        · exact give_up_carries _ after afterToo likeOn
        · exact ⟨likeOn, rfl⟩
      · exact ⟨likeOn, rfl⟩

theorem run_value_carries (treats : runner.bench.Treats related) (request : Request) (value : Int) :
    Carries related (runner.runValue request value) := by
  intro first second like
  unfold Runner.runValue
  cases request.config.replacement value with
  | error fault => exact ⟨like, rfl⟩
  | ok line =>
      let call : PatchCall := ⟨⟨request.config.target, request.config.pattern, line⟩, some value⟩
      obtain ⟨likeOn, same⟩ := patch_carries treats call first second like
      rcases patched : runner.patch call first with ⟨after, answer⟩
      rcases patchedToo : runner.patch call second with ⟨afterToo, answerToo⟩
      rw [patched, patchedToo] at likeOn same
      dsimp only at likeOn same ⊢
      subst same
      rw [patched, patchedToo]
      rcases answer with (failure | fault) | previous
      · exact give_up_carries _ after afterToo likeOn
      · exact ⟨likeOn, rfl⟩
      · exact run_patched_carries treats request value line _ _ (like_first_line previous likeOn)

theorem run_values_carries (treats : runner.bench.Treats related) (request : Request) (values : List Int) :
    Carries related (runner.runValues request values) := by
  induction values with
  | nil => exact still_carries none
  | cons value rest ih =>
      have first := then_carries _ _ (check_carries runner.bench treats (some value) none)
        (run_value_carries treats request value)
      exact then_carries _ _ first ih

theorem run_all_carries (treats : runner.bench.Treats related) (request : Request) :
    Carries related (runner.runAll request) :=
  then_carries _ _ (run_steps_carries treats none 1 request.setup)
    (run_values_carries treats request request.config.values)

theorem restore_line_carries (treats : runner.bench.Treats related) (config : SweepConfig) (line : Text)
    (ending : Ending) : Carries related (runner.restoreLine config line ending) := by
  intro first second like
  let call : PatchCall := ⟨⟨config.target, config.pattern, line⟩, none⟩
  obtain ⟨likeOn, same⟩ := patch_carries treats call first second like
  unfold Runner.restoreLine
  rcases patched : runner.patch call first with ⟨after, answer⟩
  rcases patchedToo : runner.patch call second with ⟨afterToo, answerToo⟩
  rw [patched, patchedToo] at likeOn same
  dsimp only at likeOn same
  subst same
  rcases answer with (failure | fault) | previous
  · exact ⟨like_events _ _ rfl likeOn, rfl⟩
  · exact ⟨likeOn, rfl⟩
  · exact ⟨like_events _ _ rfl likeOn, rfl⟩

end Carrying

-- The same forwarder with a past before its own, inside the block of a run.
structure Later (past : Past) (first second : Forwarder) : Prop where
  same : first = second.withPast past
  holds : second.Holds 1

theorem later_treated {σ : Type} (bench : Bench σ) (past : Past) : bench.Treats (Later past) where
  received first second later := by
    rw [later.same]
    rfl
  asked first second later := by
    refine ⟨?_, asked_holds later.holds⟩
    rw [later.same]
    rfl
  told first second signals later := by
    refine ⟨?_, Forwarder.deliver_all_holds signals later.holds⟩
    rw [later.same, Forwarder.deliver_all_with_past]
  supervised step before first second later := by
    have same := supervise_with_past bench step second past before
    rw [later.same, same]
    exact ⟨rfl, rfl, rfl, rfl, rfl, rfl, supervise_holds bench step before later.holds⟩

-- A workplace as a runner would have it that was just made, in place of one that has been used: a runner that shares
-- its forwarder takes it over as it is.
structure Workplace.Renews {σ : Type} (fresh before : Workplace σ) : Prop where
  bench : fresh.bench = before.bench
  covered : fresh.forwarder.covered = before.forwarder.covered
  handlers : fresh.forwarder.handlers = before.forwarder.handlers
  rest : fresh.forwarder.AtRest
  firstLine : fresh.firstLine = none

-- A run on a workplace did the same as another one on a renewed workplace: it ended in the same way, told the same,
-- and left the same state, the same handlers, and the same signals told to others; only the processes are counted on.
structure Finished.Repeats {σ : Type} (reused anew : Finished σ) (before fresh : Workplace σ) : Prop where
  ending : reused.ending = anew.ending
  trace : reused.trace = anew.trace
  bench : reused.workplace.bench = anew.workplace.bench
  handlers : reused.workplace.forwarder.handlers = anew.workplace.forwarder.handlers
  outer : ∃ told, reused.workplace.forwarder.outer = before.forwarder.outer ++ told ∧
    anew.workplace.forwarder.outer = fresh.forwarder.outer ++ told
  sent : ∃ passed : List (Nat × Int),
    reused.workplace.forwarder.sent = before.forwarder.sent ++ passed.map before.forwarder.past.renumber ∧
      anew.workplace.forwarder.sent = fresh.forwarder.sent ++ passed.map fresh.forwarder.past.renumber

section Reusing

variable {σ : Type} (runner : Runner σ) (request : Request)

theorem real_run_like (related : Forwarder → Forwarder → Prop) (treats : runner.bench.Treats related)
    (workplace workplaceToo : Workplace σ) (real : request.dryRun = false)
    (like : State.Like related (.opening workplace) (.opening workplaceToo)) :
    ∃ state stateToo ending, runner.run request workplace = state.finished ending ∧
      runner.run request workplaceToo = stateToo.finished ending ∧ State.Like related state stateToo := by
  obtain ⟨likeOn, same⟩ := run_all_carries treats request _ _ like
  rcases ran : runner.runAll request (.opening workplace) with ⟨swept, halt⟩
  rcases ranToo : runner.runAll request (.opening workplaceToo) with ⟨sweptToo, haltToo⟩
  rw [ran, ranToo] at likeOn same
  dsimp only at likeOn same
  subst same
  by_cases restored : request.restore = true ∧ ∃ line, swept.firstLine = some line
  · obtain ⟨restore, line, found⟩ := restored
    have ended : Ending.ofHalt sweptToo.outcome halt = Ending.ofHalt swept.outcome halt := by
      rw [likeOn.outcome]
    obtain ⟨likeLast, sameEnding⟩ :=
      restore_line_carries treats request.config line (.ofHalt swept.outcome halt) swept sweptToo likeOn
    rcases put : runner.restoreLine request.config line (.ofHalt swept.outcome halt) swept with ⟨state, ending⟩
    rcases putToo : runner.restoreLine request.config line (.ofHalt swept.outcome halt) sweptToo
      with ⟨stateToo, endingToo⟩
    rw [put, putToo] at likeLast sameEnding
    dsimp only at likeLast sameEnding
    subst sameEnding
    rw [← ended] at putToo
    exact ⟨state, stateToo, ending,
      real_run_restored runner request workplace swept state halt line ending real ran restore found put,
      real_run_restored runner request workplaceToo sweptToo stateToo halt line ending real ranToo restore
        (likeOn.firstLine.symm.trans found) putToo, likeLast⟩
  · have unrestored : request.restore = true → swept.firstLine = none := by
      intro restore
      cases found : swept.firstLine with
      | none => rfl
      | some line => exact absurd ⟨restore, line, found⟩ restored
    have ends := real_run_kept runner request workplace swept halt real ran unrestored
    have endsToo := real_run_kept runner request workplaceToo sweptToo halt real ranToo
      fun restore => likeOn.firstLine.symm.trans (unrestored restore)
    rw [← likeOn.outcome] at endsToo
    exact ⟨_, _, _, ends, endsToo, likeOn⟩

-- As a runner would have it that was just made and shares its forwarder with nobody.
def Workplace.idle (workplace : Workplace σ) : Workplace σ :=
  ⟨workplace.bench, Forwarder.idle workplace.forwarder.covered workplace.forwarder.handlers, none⟩

theorem idle_renews (workplace : Workplace σ) : workplace.idle.Renews workplace :=
  ⟨rfl, rfl, rfl, ⟨rfl, rfl, rfl⟩, rfl⟩

def Workplace.found (workplace : Workplace σ) : Workplace σ := ⟨workplace.bench, workplace.forwarder.found, none⟩

-- What a real run on a forwarder at rest has to do with the one on a forwarder that has done nothing yet.
structure Finished.Resumes (finished anew : Finished σ) (past : Past) : Prop where
  ending : finished.ending = anew.ending
  trace : finished.trace = anew.trace
  bench : finished.workplace.bench = anew.workplace.bench
  forwarder : finished.workplace.forwarder = anew.workplace.forwarder.withPast past
  rest : anew.workplace.forwarder.AtRest

theorem real_run_resumes (workplace : Workplace σ) (rest : workplace.forwarder.AtRest)
    (real : request.dryRun = false) :
    (runner.run request workplace).Resumes (runner.run request workplace.found) workplace.forwarder.past := by
  have opening : State.Like (Later workplace.forwarder.past) (.opening workplace) (.opening workplace.found) :=
    ⟨rfl, rfl, rfl, rfl, Forwarder.enter_forgets rest, Forwarder.enter_holds workplace.forwarder.found_holds⟩
  obtain ⟨state, stateToo, ending, ends, endsToo, like⟩ :=
    real_run_like runner request _ (later_treated ..) workplace workplace.found real opening
  have left : state.forwarder.leave = stateToo.forwarder.leave.withPast workplace.forwarder.past := by
    rw [like.forwarder.same, Forwarder.leave_with_past]
  rw [ends, endsToo]
  exact ⟨rfl, like.trace, like.bench, left,
    (Forwarder.at_rest_iff _).mpr (Forwarder.leave_holds like.forwarder.holds)⟩

theorem run_at_rest (workplace : Workplace σ) (rest : workplace.forwarder.AtRest) :
    (runner.run request workplace).workplace.forwarder.AtRest := by
  cases dry : request.dryRun with
  | true =>
      obtain ⟨added, _, ran⟩ := dry_run_tells runner request dry
      rw [ran]
      exact rest
  | false =>
      have resumes := real_run_resumes runner request workplace rest dry
      rw [resumes.forwarder]
      exact ⟨resumes.rest.depth, resumes.rest.saved, congrArg (Option.map _) resumes.rest.child⟩

-- A run heeds the signal that it finds pending only if it is neither a dry run nor on the main thread.
def Request.Heeds (request : Request) (onMainThread : Bool) : Prop := request.dryRun = false ∧ onMainThread = false

theorem renewed_run_repeats (before fresh : Workplace σ) (rest : before.forwarder.AtRest) (renews : fresh.Renews before)
    (onMainThread : Bool)
    (heeded : request.Heeds onMainThread → fresh.forwarder.received = before.forwarder.received) :
    (runner.run request (before.on onMainThread)).Repeats (runner.run request (fresh.on onMainThread)) before fresh := by
  cases dry : request.dryRun with
  | true =>
      obtain ⟨added, _, ran⟩ := dry_run_tells runner request dry
      rw [ran, ran]
      refine ⟨rfl, rfl, renews.bench.symm, renews.handlers.symm, ⟨[], ?_, ?_⟩, ⟨[], ?_, ?_⟩⟩ <;>
        exact (List.append_nil _).symm
  | false =>
      have restOn : (before.on onMainThread).forwarder.AtRest := ⟨rest.depth, rest.saved, rest.child⟩
      have freshOn : (fresh.on onMainThread).forwarder.AtRest :=
        ⟨renews.rest.depth, renews.rest.saved, renews.rest.child⟩
      have reused := real_run_resumes runner request (before.on onMainThread) restOn dry
      have anew := real_run_resumes runner request (fresh.on onMainThread) freshOn dry
      have same : (fresh.on onMainThread).found = (before.on onMainThread).found := by
        cases onMainThread <;>
          simp [Workplace.found, Workplace.on, Forwarder.found, Forwarder.on, renews.bench, renews.covered,
            renews.handlers]
        exact heeded ⟨dry, rfl⟩
      rw [same] at anew
      refine ⟨reused.ending.trans anew.ending.symm, reused.trace.trans anew.trace.symm,
        reused.bench.trans anew.bench.symm, ?_,
        ⟨(runner.run request (before.on onMainThread).found).workplace.forwarder.outer, ?_, ?_⟩,
        ⟨(runner.run request (before.on onMainThread).found).workplace.forwarder.sent, ?_, ?_⟩⟩
      · rw [reused.forwarder, anew.forwarder]
        rfl
      · rw [reused.forwarder]
        rfl
      · rw [anew.forwarder]
        rfl
      · rw [reused.forwarder]
        rfl
      · rw [anew.forwarder]
        rfl

def Runner.leftBy (runner : Runner σ) (workplace : Workplace σ) (requests : List (Bool × Request)) : Workplace σ :=
  requests.foldl (fun now asked => (runner.run asked.2 (now.on asked.1)).workplace) workplace

theorem left_at_rest (workplace : Workplace σ) (requests : List (Bool × Request)) (rest : workplace.forwarder.AtRest) :
    (runner.leftBy workplace requests).forwarder.AtRest := by
  induction requests generalizing workplace with
  | nil => exact rest
  | cons asked later ih =>
      exact ih _ (run_at_rest runner asked.2 (workplace.on asked.1) ⟨rest.depth, rest.saved, rest.child⟩)

theorem run_each_at (workplace : Workplace σ) (earlier later : List (Bool × Request)) (onMainThread : Bool) :
    (runner.runEach workplace (earlier ++ (onMainThread, request) :: later))[earlier.length]? =
      some (runner.run request ((runner.leftBy workplace earlier).on onMainThread)) := by
  induction earlier generalizing workplace with
  | nil => rfl
  | cons first rest ih => exact ih (runner.run first.2 (workplace.on first.1)).workplace

end Reusing

-- Whatever was run before on a runner, a run does what it would do on a runner that was just made, unless it heeds a
-- signal that the new runner knows nothing of.
theorem each_run_as_on_fresh_runner {σ : Type} (runner : Runner σ) (workplace fresh : Workplace σ)
    (earlier later : List (Bool × Request)) (onMainThread : Bool) (request : Request) (rest : workplace.forwarder.AtRest)
    (renews : fresh.Renews (runner.leftBy workplace earlier))
    (heeded : request.Heeds onMainThread →
      fresh.forwarder.received = (runner.leftBy workplace earlier).forwarder.received) :
    ∃ reused, (runner.runEach workplace (earlier ++ (onMainThread, request) :: later))[earlier.length]? = some reused ∧
      reused.Repeats (runner.run request (fresh.on onMainThread)) (runner.leftBy workplace earlier) fresh :=
  ⟨_, run_each_at runner request workplace earlier later onMainThread,
    renewed_run_repeats runner request _ fresh (left_at_rest runner workplace earlier rest) renews onMainThread heeded⟩

namespace Sample

-- What a first run leaves, during which a signal arrives that nobody asks for.
def left : Workplace Stage := runner.leftBy (workplace stirred) [(true, request false)]

end Sample

theorem each_run_as_on_fresh_runner_once :
    Sample.left.forwarder.received = some 15 ∧ Sample.left.firstLine.isSome = true ∧
      (Sample.workplace Sample.stirred).forwarder.AtRest ∧ Sample.left.idle.Renews Sample.left ∧
      ¬ (Sample.request true).Heeds true ∧
      ∃ reused, (Sample.runner.runEach (Sample.workplace Sample.stirred)
            ([(true, Sample.request false)] ++ (true, Sample.request true) :: []))[1]? = some reused ∧
        reused.Repeats (Sample.runner.run (Sample.request true) (Sample.left.idle.on true)) Sample.left
          Sample.left.idle := by
  have rest : (Sample.workplace Sample.stirred).forwarder.AtRest := ⟨rfl, rfl, rfl⟩
  have renews := idle_renews Sample.left
  have heedless : ¬ (Sample.request true).Heeds true := fun heeds => Bool.false_ne_true heeds.2.symm
  exact ⟨by decide +kernel, by decide +kernel, rest, renews, heedless,
    each_run_as_on_fresh_runner Sample.runner (Sample.workplace Sample.stirred) _ [(true, Sample.request false)] [] true
      (Sample.request true) rest renews fun heeds => absurd heeds heedless⟩

-- On another thread nothing makes the runner forget the signal of the first run, and it ends the second one at once.
theorem old_signal_ends_run_off_main_thread :
    (Sample.workplace Sample.stirred).forwarder.AtRest ∧ Sample.left.idle.Renews Sample.left ∧
      ∃ reused, (Sample.runner.runEach (Sample.workplace Sample.stirred)
            [(true, Sample.request false), (false, Sample.request false)])[1]? = some reused ∧
        reused.ending.isInterrupt = true ∧
        (Sample.runner.run (Sample.request false) (Sample.left.idle.on false)).ending.isInterrupt = false ∧
        ¬ reused.Repeats (Sample.runner.run (Sample.request false) (Sample.left.idle.on false)) Sample.left
          Sample.left.idle := by
  have ended : (Sample.runner.run (Sample.request false) (Sample.left.on false)).ending.isInterrupt = true := by
    decide +kernel
  have completed : (Sample.runner.run (Sample.request false) (Sample.left.idle.on false)).ending.isInterrupt = false := by
    decide +kernel
  refine ⟨⟨rfl, rfl, rfl⟩, idle_renews Sample.left, _, rfl, ended, completed, ?_⟩
  intro repeats
  have same := congrArg Ending.isInterrupt repeats.ending
  exact Bool.false_ne_true (completed.symm.trans (same.symm.trans ended))

end ConstantSweep.Sweep

import Mathlib.Data.List.DropRight
import Mathlib.Data.List.Forall2
import ConstantSweep.Proofs.Mishap
import ConstantSweep.Proofs.Undisturbed

set_option autoImplicit false

namespace ConstantSweep.Text

-- The text without the blanks at its ends.
structure IsStripped {α : Type} (blank : α → Bool) (text stripped : List α) : Prop where
  ends : ∃ before after, text = before ++ stripped ++ after ∧ ∀ letter ∈ before ++ after, blank letter = true
  first : ∀ letter, stripped.head? = some letter → blank letter = false
  last : ∀ letter, stripped.getLast? = some letter → blank letter = false

theorem trim_stripped {α : Type} (blank : α → Bool) (text : List α) : IsStripped blank text (trim blank text) := by
  have same : trim blank text = (text.dropWhile blank).rdropWhile blank := rfl
  rw [same]
  constructor
  · refine ⟨text.takeWhile blank, (text.dropWhile blank).rtakeWhile blank, ?_, ?_⟩
    · rw [List.append_assoc, List.rdropWhile_append_rtakeWhile, List.takeWhile_append_dropWhile]
    · intro letter member
      rcases List.mem_append.mp member with front | back
      · exact List.all_eq_true.mp List.all_takeWhile letter front
      · exact List.mem_rtakeWhile_imp back
  · intro letter begins
    obtain ⟨after, parts⟩ := List.rdropWhile_prefix blank (text.dropWhile blank)
    have front := List.head?_dropWhile_not blank text
    rw [← parts, List.head?_append, begins] at front
    exact front
  · intro letter ends
    have kept : (text.dropWhile blank).rdropWhile blank ≠ [] := by
      intro none
      rw [none] at ends
      cases ends
    rw [List.getLast?_eq_getLast_of_ne_nil kept] at ends
    obtain rfl := Option.some.inj ends
    exact Bool.eq_false_iff.mpr (List.rdropWhile_last_not blank _ kept)

end ConstantSweep.Text

namespace ConstantSweep.Sweep

open ConstantSweep.Text
open ConstantSweep.Signal

namespace Request

variable (request : Request)

-- The run that only tells what it would do, and the one that does it and puts no line back.
def dry : Request := { request with dryRun := true }

def real : Request := { request with dryRun := false, restore := false }

end Request

-- The words of a command with spaces between them.
def spoken (command : List Text) : Text := ⟨[Letter.char ' '].intercalate (command.map Text.toList)⟩

-- A message tells a call: which step of which value, or of the setup, and its command; or which file is patched with
-- which line.
inductive Foretells {σ : Type} : Text → Call σ → Prop where
  | setup (done : SpawnDone σ) : done.value = none →
      Foretells ("[dry-run] value=setup step=" ++ toString done.index ++ ": " ++ spoken done.step.command) (.spawn done)
  | spawn (done : SpawnDone σ) (value : Int) : done.value = some value →
      Foretells ("[dry-run] value=" ++ toString value ++ " step=" ++ toString done.index ++ ": " ++
        spoken done.step.command) (.spawn done)
  | patch (done : PatchDone σ) (stripped : Text) :
      IsStripped isBlank done.call.request.replacement.toList stripped.toList →
      Foretells ("[dry-run] patch " ++ done.call.request.path.text ++ " -> " ++ stripped) (.patch done)

def stepNotices (value : Option Int) (index : Int) : List Step → List Text
  | [] => []
  | step :: rest =>
      ("[dry-run] value=" ++ StepResult.valueText value ++ " step=" ++ toString index ++ ": " ++ spoken step.command) ::
        stepNotices value (index + 1) rest

theorem spawn_foretold {σ : Type} (done : SpawnDone σ) :
    Foretells ("[dry-run] value=" ++ StepResult.valueText done.value ++ " step=" ++ toString done.index ++ ": " ++
      spoken done.step.command) (.spawn done) := by
  cases asked : done.value with
  | none => exact .setup done asked
  | some value => exact .spawn done value asked

def Request.noticesOf (request : Request) (value : Int) : List Text :=
  match request.config.lineFor value with
  | .error _ => []
  | .ok line =>
      ("[dry-run] patch " ++ request.config.target.text ++ " -> " ++ trimmed line) ::
        match request.steps value with
        | .error _ => []
        | .ok steps => stepNotices (some value) 1 steps

def Request.valueNotices (request : Request) : List Int → List Text
  | [] => []
  | value :: rest =>
      request.noticesOf value ++
        match request.untold? value with
        | some _ => []
        | none => valueNotices request rest

def Request.notices (request : Request) : List Text :=
  stepNotices none 1 request.setup ++ request.valueNotices request.config.values

section Telling

variable {σ : Type} (runner : Runner σ)

def Runner.saying (messages : List Text) : List (Event σ) := messages.flatMap fun message => runner.shown (.say message)

theorem saying_cons (message : Text) (rest : List Text) :
    runner.saying (message :: rest) = runner.shown (.say message) ++ runner.saying rest := List.flatMap_cons

theorem saying_append (first second : List Text) :
    runner.saying (first ++ second) = runner.saying first ++ runner.saying second := List.flatMap_append

theorem add_events_twice (state : State σ) (first second : List (Event σ)) :
    (state.addEvents first).addEvents second = state.addEvents (first ++ second) := by
  simp [State.addEvents]

theorem tell_steps_notices (value : Option Int) (index : Int) (steps : List Step) (state : State σ) :
    runner.tellSteps value index steps state = state.addEvents (runner.saying (stepNotices value index steps)) := by
  induction steps generalizing index state with
  | nil => simp [Runner.tellSteps, stepNotices, Runner.saying, State.addEvents]
  | cons step rest ih =>
      have joined : spoken step.command = Text.intercalate " " step.command := rfl
      rw [Runner.tellSteps, tell_shown, ih, add_events_twice, stepNotices, saying_cons, joined]

theorem tell_values_notices (request : Request) (values : List Int) (state : State σ) :
    runner.tellValues request values state =
      (state.addEvents (runner.saying (request.valueNotices values)), values.findSome? request.untold?) := by
  induction values generalizing state with
  | nil => simp [Runner.tellValues, Request.valueNotices, Runner.saying, State.addEvents]
  | cons value rest ih =>
      have untold : request.untold? value = _ := Request.untold?.eq_def request value
      rw [Runner.tellValues, Request.valueNotices, Request.noticesOf, line_for_replacement, List.findSome?_cons]
      cases rendered : request.config.replacement value with
      | error fault =>
          rw [rendered] at untold
          simp [untold, Runner.saying, State.addEvents]
      | ok line =>
          dsimp only
          rw [tell_shown]
          cases made : request.steps value with
          | error fault =>
              rw [rendered, made] at untold
              simp [untold, Runner.saying]
          | ok steps =>
              rw [rendered, made] at untold
              dsimp only at untold ⊢
              rw [untold, tell_steps_notices, ih, add_events_twice, add_events_twice, saying_append, saying_cons]
              simp only [List.append_assoc]

theorem dry_run_says (request : Request) (workplace : Workplace σ) (dry : request.dryRun = true) :
    runner.run request workplace =
      ⟨workplace, runner.saying request.notices, .ofHalt .empty (request.config.values.findSome? request.untold?)⟩ := by
  rw [Runner.run, if_pos dry, Runner.dryRun]
  dsimp only
  rw [tell_steps_notices, tell_values_notices, add_events_twice, ← saying_append]
  rfl

theorem real_notices (request : Request) : request.real.notices = request.dry.notices := by
  have values (taken : List Int) : request.real.valueNotices taken = request.dry.valueNotices taken := by
    induction taken with
    | nil => rfl
    | cons value rest ih =>
        have here : request.real.noticesOf value = request.dry.noticesOf value := rfl
        have untold : request.real.untold? value = request.dry.untold? value := rfl
        rw [Request.valueNotices, Request.valueNotices, ih, here, untold]
  have setup : request.real.setup = request.dry.setup := rfl
  rw [Request.notices, Request.notices, values, setup]
  rfl

end Telling

section Doing

variable {σ : Type} {bench : Bench σ} {catches : Int → Bool} {turn : Nat} {value : Option Int} {index : Int}
  {calls : List (Call σ)} {start last : Standing σ} {halt : Option Halt} {policy : Policy} {request : Request}

structure Succeed (catches : Int → Bool) (calls : List (Call σ)) : Prop where
  good : ∀ call ∈ calls, call.isGood = true
  calm : ∀ call ∈ calls, call.stirs catches = false

theorem succeed_append (early later : List (Call σ)) (succeed : Succeed catches (early ++ later)) :
    Succeed catches early ∧ Succeed catches later := by
  obtain ⟨goodEarly, goodLater⟩ := List.forall_mem_append.mp succeed.good
  obtain ⟨calmEarly, calmLater⟩ := List.forall_mem_append.mp succeed.calm
  exact ⟨⟨goodEarly, calmEarly⟩, ⟨goodLater, calmLater⟩⟩

theorem succeed_cons (call : Call σ) (later : List (Call σ)) (succeed : Succeed catches (call :: later)) :
    call.isGood = true ∧ call.stirs catches = false ∧ Succeed catches later := by
  obtain ⟨good, goodLater⟩ := List.forall_mem_cons.mp succeed.good
  obtain ⟨calm, calmLater⟩ := List.forall_mem_cons.mp succeed.calm
  exact ⟨good, calm, ⟨goodLater, calmLater⟩⟩

theorem step_foretold (step : Step) (course : StepCourse bench catches turn value index step start calls last halt)
    (quiet : start.flag = none) (succeed : Succeed catches calls) (labelled : step.label.isOk = true) :
    halt = none ∧ ∃ done, calls = [.spawn done] ∧ done.value = value ∧ done.index = index ∧ done.step = step := by
  cases course with
  | noticed signal flag => exact absurd (quiet.symm.trans flag) (Option.some_ne_none signal).symm
  | nameless fault _ named => exact absurd named (labelled_message value index step fault labelled)
  | stopped stop _ told =>
      obtain ⟨good, _, _⟩ := succeed_cons _ _ succeed
      simp only [Call.isGood, Bench.spawnDone, told] at good
      cases good
  | failed measured _ told bad =>
      obtain ⟨good, _, _⟩ := succeed_cons _ _ succeed
      simp only [Call.isGood, Bench.spawnDone, told] at good
      exact absurd (beq_iff_eq.mp good) bad
  | passed measured _ told zero => exact ⟨rfl, _, rfl, rfl, rfl, rfl⟩

theorem steps_foretold (steps : List Step)
    (course : StepsCourse bench catches turn value index steps start calls last halt) (quiet : start.flag = none)
    (succeed : Succeed catches calls) (labelled : ∀ step ∈ steps, step.label.isOk = true) :
    halt = none ∧ List.Forall₂ Foretells (stepNotices value index steps) calls := by
  induction course with
  | done index start => exact ⟨rfl, .nil⟩
  | halted index step rest start calls last halt first =>
      obtain ⟨none, _⟩ := step_foretold step first quiet succeed (labelled step List.mem_cons_self)
      cases none
  | next index step rest start calls later middle last halt first _ ih =>
      obtain ⟨early, late⟩ := succeed_append calls later succeed
      obtain ⟨_, done, only, rfl, rfl, rfl⟩ := step_foretold step first quiet early (labelled step List.mem_cons_self)
      have still := undisturbed_flag quiet early.calm fun flag => step_cause _ first (.inr flag)
      obtain ⟨ended, rest⟩ := ih still late fun other member => labelled other (List.mem_cons_of_mem _ member)
      subst only
      exact ⟨ended, .cons (spawn_foretold done) rest⟩

-- Every step that belongs to the value has a label that can be written.
def Request.IsLabelled (request : Request) (value : Option Int) : Prop :=
  ∀ steps, request.stepsOf value = .ok steps → ∀ step ∈ steps, step.label.isOk = true

theorem patched_foretold (taken : Int)
    (course : PatchedCourse bench catches policy request turn taken start calls last halt) (quiet : start.flag = none)
    (succeed : Succeed catches calls) (labelled : request.IsLabelled (some taken)) :
    match request.steps taken with
    | .error fault => halt = some (.fault fault) ∧ calls = []
    | .ok steps => halt = none ∧ List.Forall₂ Foretells (stepNotices (some taken) 1 steps) calls := by
  cases course with
  | noticed signal flag => exact absurd (quiet.symm.trans flag) (Option.some_ne_none signal).symm
  | stepless fault _ factory =>
      rw [factory]
      exact ⟨rfl, rfl⟩
  | ran steps calls last halt _ factory ran =>
      obtain ⟨rfl, told⟩ := steps_foretold steps ran quiet succeed (labelled steps factory)
      rw [factory]
      exact ⟨rfl, told⟩

theorem value_foretold (taken : Int)
    (course : ValueCourse bench catches policy request turn taken start calls last halt) (quiet : start.flag = none)
    (succeed : Succeed catches calls) (labelled : request.IsLabelled (some taken)) :
    halt = request.untold? taken ∧ List.Forall₂ Foretells (request.noticesOf taken) calls := by
  have untold : request.untold? taken = _ := Request.untold?.eq_def request taken
  cases course with
  | unrendered fault rendered =>
      rw [untold, Request.noticesOf, line_for_replacement, rendered]
      exact ⟨rfl, .nil⟩
  | crashed line fault rendered answer =>
      obtain ⟨good, _, _⟩ := succeed_cons _ _ succeed
      simp only [Call.isGood, Bench.patchDone, answer] at good
      cases good
  | unpatched line failure rendered answer =>
      obtain ⟨good, _, _⟩ := succeed_cons _ _ succeed
      simp only [Call.isGood, Bench.patchDone, answer] at good
      cases good
  | patched line previous later last halt rendered answer ran =>
      obtain ⟨_, calm, late⟩ := succeed_cons _ later succeed
      have still : (start.afterPatch bench catches (request.patchCall (some taken) line)).flag = none := by
        rw [Standing.afterPatch, quiet, Option.or_none]
        exact unheard _ calm
      have rest := patched_foretold taken ran still late labelled
      have here := Foretells.patch (bench.patchDone turn (request.patchCall (some taken) line) start.bench)
        (trimmed line) (trim_stripped isBlank line.toList)
      rw [untold, Request.noticesOf, line_for_replacement, rendered]
      cases factory : request.steps taken with
      | error fault =>
          rw [factory] at rest
          obtain ⟨stopped, nothing⟩ := rest
          rw [nothing]
          exact ⟨stopped, .cons here .nil⟩
      | ok steps =>
          rw [factory] at rest
          obtain ⟨ended, told⟩ := rest
          exact ⟨ended, .cons here told⟩

theorem values_foretold (values : List Int)
    (course : ValuesCourse bench catches policy request turn values start calls last halt) (quiet : start.flag = none)
    (succeed : Succeed catches calls) (labelled : ∀ taken ∈ values, request.IsLabelled (some taken)) :
    halt = values.findSome? request.untold? ∧ List.Forall₂ Foretells (request.valueNotices values) calls := by
  induction course with
  | done turn start => exact ⟨rfl, .nil⟩
  | noticed turn value rest start signal flag =>
      exact absurd (quiet.symm.trans flag) (Option.some_ne_none signal).symm
  | halted turn value rest start calls last halt _ first =>
      obtain ⟨stopped, told⟩ := value_foretold value first quiet succeed (labelled value List.mem_cons_self)
      rw [List.findSome?_cons, Request.valueNotices, ← stopped]
      refine ⟨rfl, ?_⟩
      rw [List.append_nil]
      exact told
  | next turn value rest start calls later middle last halt _ first _ ih =>
      obtain ⟨early, late⟩ := succeed_append calls later succeed
      obtain ⟨going, told⟩ := value_foretold value first quiet early (labelled value List.mem_cons_self)
      have still := undisturbed_flag quiet early.calm fun flag => value_cause value first (.inr flag)
      obtain ⟨ended, toldLater⟩ := ih still late fun taken member => labelled taken (List.mem_cons_of_mem _ member)
      rw [List.findSome?_cons, Request.valueNotices, ← going]
      exact ⟨ended, List.rel_append told toldLater⟩

theorem sweep_foretold (course : SweepCourse bench catches policy request start calls last halt)
    (quiet : start.flag = none) (succeed : Succeed catches calls) (setupLabelled : request.IsLabelled none)
    (labelled : ∀ taken ∈ request.config.values, request.IsLabelled (some taken)) :
    halt = request.config.values.findSome? request.untold? ∧ List.Forall₂ Foretells request.notices calls := by
  cases course with
  | halted calls last halt setup =>
      obtain ⟨none, _⟩ := steps_foretold request.setup setup quiet succeed (setupLabelled request.setup rfl)
      cases none
  | prepared early later middle last halt setup values =>
      obtain ⟨succeedEarly, succeedLater⟩ := succeed_append early later succeed
      obtain ⟨_, told⟩ := steps_foretold request.setup setup quiet succeedEarly (setupLabelled request.setup rfl)
      have still := undisturbed_flag quiet succeedEarly.calm fun flag => steps_cause request.setup setup (.inr flag)
      obtain ⟨ended, toldLater⟩ := values_foretold request.config.values values still succeedLater labelled
      exact ⟨ended, List.rel_append told toldLater⟩

theorem dry_calls (final : σ) (ending : Ending) (dry : request.dryRun = true)
    (course : RunCourse bench catches policy request start calls final ending) : calls = [] := by
  cases course with
  | told ending _ unfailing => rfl
  | swept calls last halt real swept unrestored => exact absurd (dry.symm.trans real) Bool.true_eq_false.mp
  | restored early last halt line turn real swept restore found =>
      exact absurd (dry.symm.trans real) Bool.true_eq_false.mp

theorem real_foretold (final : σ) (ending : Ending) (real : request.dryRun = false)
    (unrestored : request.restore = false)
    (course : RunCourse bench catches policy request start calls final ending) (quiet : start.flag = none)
    (succeed : Succeed catches calls) (setupLabelled : request.IsLabelled none)
    (labelled : ∀ taken ∈ request.config.values, request.IsLabelled (some taken)) :
    ending = .ofHalt ⟨resultsOf calls, recordedBy policy calls⟩ (request.config.values.findSome? request.untold?) ∧
      List.Forall₂ Foretells request.notices calls := by
  cases course with
  | told ending dry unfailing => exact absurd (dry.symm.trans real) Bool.true_eq_false.mp
  | swept calls last halt _ swept _ =>
      obtain ⟨ended, told⟩ := sweep_foretold swept quiet succeed setupLabelled labelled
      rw [ended]
      exact ⟨rfl, told⟩
  | restored early last halt line turn _ swept restore found =>
      exact absurd (restore.symm.trans unrestored) Bool.true_eq_false.mp

end Doing

-- Nothing goes wrong in the run: no signal waits or is caught, every patch is made, and every process ends with zero.
-- What steps are called can be written.
structure Runner.Succeeds {σ : Type} (runner : Runner σ) (request : Request) (workplace : Workplace σ) : Prop where
  undisturbed : runner.Undisturbed request workplace
  good : ∀ call ∈ runner.calls request workplace, call.isGood = true
  setup : request.IsLabelled none
  labelled : ∀ value ∈ request.config.values, request.IsLabelled (some value)

inductive EndAlike : Ending → Ending → Prop where
  | completed (outcome : Outcome) : outcome.failures = [] → EndAlike (.completed .empty) (.completed outcome)
  | crashed (fault : Fault) : EndAlike (.crashed fault) (.crashed fault)

theorem good_unfailing {σ : Type} (policy : Policy) (calls : List (Call σ))
    (good : ∀ call ∈ calls, call.isGood = true) : recordedBy policy calls = [] := by
  have none : calls.filterMap Call.failure? = [] := by
    apply List.filterMap_eq_nil_iff.mpr
    intro call made
    have code := failure_code call
    have mishap : call.mishapIn? .values = none := by
      rw [Call.mishapIn?, good_no_mishap call (good call made)]
      split <;> rfl
    rw [mishap] at code
    exact Option.map_eq_none_iff.mp code
  rw [recordedBy, none, keep_nil]

theorem of_halt_alike (halt : Option Halt) (errorless : Errorless halt) (outcome : Outcome)
    (unfailing : outcome.failures = []) : EndAlike (.ofHalt .empty halt) (.ofHalt outcome halt) := by
  rcases halt with _ | error | fault
  · exact .completed outcome unfailing
  · exact absurd rfl (errorless error)
  · exact .crashed fault

theorem untold_iff (request : Request) (value : Int) : request.untold? value = none ↔
    (∃ line, request.config.IsLine value line) ∧ ∃ steps, request.steps value = .ok steps := by
  simp only [← line_for_iff, line_for_replacement]
  rw [Request.untold?]
  cases request.config.replacement value <;> cases request.steps value <;> simp

theorem dry_run_foretells_real_run {σ : Type} (runner : Runner σ) (request : Request) (workplace : Workplace σ) :
    runner.run request.dry workplace =
        ⟨workplace, runner.saying request.dry.notices,
          .ofHalt .empty (request.config.values.findSome? request.untold?)⟩ ∧
      runner.calls request.dry workplace = [] ∧
      (∀ value, request.untold? value = none ↔
        (∃ line, request.config.IsLine value line) ∧ ∃ steps, request.steps value = .ok steps) ∧
      (runner.Succeeds request.real workplace →
        List.Forall₂ Foretells request.dry.notices (runner.calls request.real workplace) ∧
          EndAlike (runner.run request.dry workplace).ending (runner.run request.real workplace).ending) := by
  have said := dry_run_says runner request.dry workplace rfl
  refine ⟨said, dry_calls _ _ rfl (run_course runner request.dry workplace), untold_iff request, ?_⟩
  intro succeeds
  obtain ⟨ended, told⟩ := real_foretold _ _ rfl rfl (run_course runner request.real workplace)
    succeeds.undisturbed.pending ⟨succeeds.good, succeeds.undisturbed.calm⟩ succeeds.setup succeeds.labelled
  rw [real_notices] at told
  refine ⟨told, ?_⟩
  have untold : request.real.config.values.findSome? request.real.untold? =
      request.dry.config.values.findSome? request.dry.untold? := rfl
  rw [ended, said, untold]
  exact of_halt_alike _ (untold_errorless request.dry request.dry.config.values) _
    (good_unfailing runner.policy _ succeeds.good)

theorem sample_succeeds : Sample.runner.Succeeds (Sample.request false).real (Sample.workplace Sample.silent) := by
  have fine : (Sample.runner.calls (Sample.request false).real (Sample.workplace Sample.silent)).all
      (fun call => !call.stirs (Sample.workplace Sample.silent).forwarder.enter.catches && call.isGood) = true := by
    decide +kernel
  refine ⟨⟨rfl, ?_⟩, ?_, ?_, ?_⟩
  · intro call made
    have both := List.all_eq_true.mp fine call made
    exact (Bool.not_eq_true' _).mp (Bool.and_eq_true_iff.mp both).1
  · intro call made
    have both := List.all_eq_true.mp fine call made
    exact (Bool.and_eq_true_iff.mp both).2
  · intro steps none step member
    cases none
    cases member
  · intro value _ steps factory step member
    cases factory
    cases List.mem_singleton.mp member
    rfl

theorem dry_run_foretells_real_run_once :
    Sample.runner.Succeeds (Sample.request false).real (Sample.workplace Sample.silent) ∧
      (Sample.request false).dry.notices = ["[dry-run] patch c.txt -> X=2", "[dry-run] value=2 step=1: a"] ∧
      (Sample.runner.run (Sample.request false).dry (Sample.workplace Sample.silent)).trace =
        Sample.runner.saying (Sample.request false).dry.notices ∧
      (Sample.runner.run (Sample.request false).dry (Sample.workplace Sample.silent)).ending = .completed .empty ∧
      List.Forall₂ Foretells (Sample.request false).dry.notices
        (Sample.runner.calls (Sample.request false).real (Sample.workplace Sample.silent)) := by
  obtain ⟨said, _, _, foretold⟩ :=
    dry_run_foretells_real_run Sample.runner (Sample.request false) (Sample.workplace Sample.silent)
  have told : (Sample.request false).config.values.findSome? (Sample.request false).untold? = none := by
    decide +kernel
  refine ⟨sample_succeeds, by decide +kernel, ?_, ?_, (foretold sample_succeeds).1⟩
  · rw [said]
  · rw [said, told]
    rfl

end ConstantSweep.Sweep

import ConstantSweep.Proofs.Accounting
import ConstantSweep.Proofs.Undisturbed

set_option autoImplicit false

namespace ConstantSweep.Sweep

open ConstantSweep.Text

def resultsIn {σ : Type} (deeds : List (Deed σ)) : List StepResult := deeds.filterMap Deed.result?

def failuresIn {σ : Type} (deeds : List (Deed σ)) : List SweepFailure := deeds.filterMap Deed.failure?

-- A patch that is refused, a process that cannot be started, or a process that ends with another code than zero.
def Deed.isBad {σ : Type} (bench : Bench σ) : Deed σ → Bool
  | .patch call before =>
      match (bench.patch call before).answer with
      | .error (.failure _) => true
      | _ => false
  | .spawn step before =>
      match (bench.spawn step before).answer with
      | .error (.failure _) => true
      | _ => false
  | .report result => !result.isOk
  | _ => false

def Deed.isOfStep {σ : Type} : Deed σ → Bool
  | .say _ => true
  | .spawn _ _ => true
  | .report _ => true
  | _ => false

def OfSteps {σ : Type} (deeds : List (Deed σ)) : Prop := ∀ deed ∈ deeds, deed.isOfStep = true

def Fine {σ : Type} (bench : Bench σ) (deeds : List (Deed σ)) : Prop := ∀ deed ∈ deeds, deed.isBad bench = false

def Halt.failure? : Halt → Option SweepFailure
  | .error cause => some (.ofError cause)
  | .fault _ => none

def Unfaulted (halt : Option Halt) : Prop := ∀ fault, halt ≠ some (.fault fault)

-- The results of steps that are counted from an index on, without a gap.
structure Numbered (value : Option Int) (index : Int) (results : List StepResult) : Prop where
  value : ∀ result ∈ results, result.value = value
  step : ∀ position result, results[position]? = some result → result.step = index + (position : Nat)

-- How steps that are counted from an index on can end: all of them have passed, the next one could not be started, or
-- the last one ended with another code than zero. Whatever came before that was fine.
inductive StepsClose {σ : Type} (bench : Bench σ) (value : Option Int) (index : Int) (count : Nat) :
    List (Deed σ) → Option SweepFailure → Prop where
  | passed (deeds : List (Deed σ)) : Fine bench deeds → (resultsIn deeds).length = count →
      StepsClose bench value index count deeds none
  | unspawned (early : List (Deed σ)) (step : Step) (before : σ) (cause : SpawnFailure) (place : Int) :
      Fine bench early → (bench.spawn step before).answer = .error (.failure cause) →
      place = index + (resultsIn early).length →
      StepsClose bench value index count (early ++ [.spawn step before])
        (some ⟨value, some place, ⟨.spawn cause, value, some place⟩⟩)
  | failed (early : List (Deed σ)) (result : StepResult) (place : Int) :
      Fine bench early → result.exitCode ≠ 0 → place = index + (resultsIn early).length →
      StepsClose bench value index count (early ++ [.report result])
        (some ⟨value, some place, .stepFailed value place result.exitCode⟩)

section Steps

variable {σ : Type} {bench : Bench σ} {value : Option Int} {index : Int} {count : Nat}

theorem numbered_nil : Numbered value index [] := by
  refine ⟨List.forall_mem_nil _, ?_⟩
  intro position result found
  cases found

theorem numbered_singleton (result : StepResult) (valued : result.value = value) (counted : result.step = index) :
    Numbered value index [result] := by
  refine ⟨List.forall_mem_singleton.mpr valued, ?_⟩
  intro position other found
  cases position with
  | zero =>
      cases found
      rw [counted]
      omega
  | succ position => cases found

theorem numbered_append (early late : List StepResult) (first : Numbered value index early)
    (second : Numbered value (index + early.length) late) : Numbered value index (early ++ late) := by
  refine ⟨List.forall_mem_append.mpr ⟨first.value, second.value⟩, ?_⟩
  intro position result found
  by_cases within : position < early.length
  · rw [List.getElem?_append_left within] at found
    exact first.step position result found
  · rw [List.getElem?_append_right (Nat.le_of_not_lt within)] at found
    have counted := second.step _ result found
    omega

theorem results_in_append (early late : List (Deed σ)) :
    resultsIn (early ++ late) = resultsIn early ++ resultsIn late := List.filterMap_append

theorem failures_in_append (early late : List (Deed σ)) :
    failuresIn (early ++ late) = failuresIn early ++ failuresIn late := List.filterMap_append

theorem fine_append (early late : List (Deed σ)) (first : Fine bench early) (second : Fine bench late) :
    Fine bench (early ++ late) := List.forall_mem_append.mpr ⟨first, second⟩

theorem length_results_append (early late : List (Deed σ)) :
    (resultsIn (early ++ late)).length = (resultsIn early).length + (resultsIn late).length := by
  rw [results_in_append, List.length_append]

theorem steps_close_after (early late : List (Deed σ)) (failure : Option SweepFailure) (fine : Fine bench early)
    (closes : StepsClose bench value (index + (resultsIn early).length) count late failure) :
    StepsClose bench value index ((resultsIn early).length + count) (early ++ late) failure := by
  cases closes with
  | passed _ fineLate counted =>
      refine .passed _ (fine_append early late fine fineLate) ?_
      rw [length_results_append, counted]
  | unspawned between step before cause place fineLate answer placed =>
      rw [← List.append_assoc]
      refine .unspawned _ step before cause place (fine_append early between fine fineLate) answer ?_
      rw [length_results_append, placed]
      omega
  | failed between result place fineLate bad placed =>
      rw [← List.append_assoc]
      refine .failed _ result place (fine_append early between fine fineLate) bad ?_
      rw [length_results_append, placed]
      omega

structure StepsRan {σ : Type} (bench : Bench σ) (value : Option Int) (index : Int) (count : Nat)
    (deeds : List (Deed σ)) (halt : Option Halt) : Prop where
  numbered : Numbered value index (resultsIn deeds)
  ofSteps : OfSteps deeds
  closes : StepsClose bench value index count deeds (halt.bind Halt.failure?)

theorem step_ran (catches : Int → Bool) (step : Step) (before : σ)
    (calm : (bench.stepPart value index step before).IsCalm bench catches)
    (unfaulted : Unfaulted (bench.stepPart value index step before).halt) :
    StepsRan bench value index 1 (bench.stepPart value index step before).deeds
      (bench.stepPart value index step before).halt := by
  rw [Bench.stepPart] at calm unfaulted ⊢
  cases named : stepMessage value index step with
  | error fault =>
      rw [named] at unfaulted
      exact absurd rfl (unfaulted fault)
  | ok message =>
      rw [named] at calm unfaulted
      dsimp only at calm unfaulted ⊢
      have said : Fine bench [.say message] := List.forall_mem_singleton.mpr rfl
      have spawned : OfSteps [.say message, .spawn step before] :=
        List.forall_mem_cons.mpr ⟨rfl, List.forall_mem_singleton.mpr rfl⟩
      cases answer : (bench.spawn step before).answer with
      | error stop =>
          rw [answer] at calm unfaulted
          cases stop with
          | failure cause =>
              exact ⟨numbered_nil, spawned, .unspawned [.say message] step before cause index said answer
                (Int.add_zero index).symm⟩
          | fault fault => exact absurd rfl (unfaulted fault)
          | interrupt signal =>
              have calmly : (Deed.spawn step before).IsCalm bench catches := calm _ (by simp)
              exact absurd answer (calmly.2 signal)
      | ok measured =>
          have started : Deed.isBad bench (.spawn step before) = false := by
            rw [Deed.isBad, answer]
          have fine : Fine bench [.say message, .spawn step before] :=
            fine_append [.say message] [.spawn step before] said (List.forall_mem_singleton.mpr started)
          have told : OfSteps [Deed.report (σ := σ) (measured.result value index step)] :=
            List.forall_mem_singleton.mpr rfl
          refine ⟨numbered_singleton _ rfl rfl, List.forall_mem_append.mpr ⟨spawned, told⟩, ?_⟩
          dsimp only
          by_cases zero : measured.exitCode = 0
          · rw [if_pos zero]
            have ended : Deed.isBad bench (.report (measured.result value index step)) = false := by
              simp [Deed.isBad, StepResult.isOk, Measured.result, zero]
            exact .passed _ (fine_append _ [_] fine (List.forall_mem_singleton.mpr ended)) rfl
          · rw [if_neg zero]
            exact .failed [.say message, .spawn step before] (measured.result value index step) index fine zero
              (Int.add_zero index).symm

theorem steps_close_cut (other : Nat) (deeds : List (Deed σ)) (failure : SweepFailure)
    (closes : StepsClose bench value index count deeds (some failure)) :
    StepsClose bench value index other deeds (some failure) := by
  cases closes with
  | unspawned early step before cause place fine answer placed =>
      exact .unspawned early step before cause place fine answer placed
  | failed early result place fine bad placed => exact .failed early result place fine bad placed

theorem steps_close_passed (deeds : List (Deed σ)) (closes : StepsClose bench value index count deeds none) :
    Fine bench deeds ∧ (resultsIn deeds).length = count := by
  cases closes with
  | passed _ fine counted => exact ⟨fine, counted⟩

theorem steps_ran_after (early late : List (Deed σ)) (halt : Option Halt)
    (numbered : Numbered value index (resultsIn early)) (ofSteps : OfSteps early) (fine : Fine bench early)
    (ran : StepsRan bench value (index + (resultsIn early).length) count late halt) :
    StepsRan bench value index ((resultsIn early).length + count) (early ++ late) halt := by
  refine ⟨?_, List.forall_mem_append.mpr ⟨ofSteps, ran.ofSteps⟩, steps_close_after early late _ fine ran.closes⟩
  rw [results_in_append]
  exact numbered_append _ _ numbered ran.numbered

theorem steps_close_silently (early late : List (Deed σ)) (failure : Option SweepFailure)
    (silent : resultsIn early = []) (fine : Fine bench early)
    (closes : StepsClose bench value index count late failure) :
    StepsClose bench value index count (early ++ late) failure := by
  have still : index + (resultsIn early).length = index := by
    rw [silent]
    exact Int.add_zero index
  have whole : StepsClose bench value index ((resultsIn early).length + count) (early ++ late) failure :=
    steps_close_after early late failure fine (still.symm ▸ closes)
  rw [silent, List.length_nil, Nat.zero_add] at whole
  exact whole

theorem unfaulted_none : Unfaulted none := by
  rintro fault same
  cases same

theorem unfaulted_error (halt : Halt) (unfaulted : Unfaulted (some halt)) : ∃ error, halt = .error error := by
  cases halt with
  | error error => exact ⟨error, rfl⟩
  | fault fault => exact absurd rfl (unfaulted fault)

theorem steps_ran (catches : Int → Bool) (steps : List Step) (before : σ)
    (calm : (bench.stepsPart value index steps before).IsCalm bench catches)
    (unfaulted : Unfaulted (bench.stepsPart value index steps before).halt) :
    StepsRan bench value index steps.length (bench.stepsPart value index steps before).deeds
      (bench.stepsPart value index steps before).halt := by
  induction steps generalizing index before with
  | nil => exact ⟨numbered_nil, List.forall_mem_nil _, .passed [] (List.forall_mem_nil _) rfl⟩
  | cons step rest ih =>
      rw [Bench.stepsPart] at calm unfaulted ⊢
      obtain ⟨early, late⟩ := calm_then _ _ bench catches calm
      have first := step_ran catches step before early
      cases stopped : (bench.stepPart value index step before).halt with
      | some halt =>
          rw [and_then_halted _ _ halt stopped] at unfaulted ⊢
          have ran := first unfaulted
          rw [stopped] at ran unfaulted ⊢
          obtain ⟨error, rfl⟩ := unfaulted_error halt unfaulted
          exact ⟨ran.numbered, ran.ofSteps, steps_close_cut _ _ _ ran.closes⟩
      | none =>
          rw [and_then_next _ _ stopped] at unfaulted ⊢
          rw [stopped] at first
          have ran := first unfaulted_none
          obtain ⟨fine, counted⟩ := steps_close_passed _ ran.closes
          have later := ih (bench.stepPart value index step before).bench (late stopped) unfaulted
          have whole := steps_ran_after (bench.stepPart value index step before).deeds
            (bench.stepsPart value (index + 1) rest (bench.stepPart value index step before).bench).deeds _ ran.numbered
            ran.ofSteps fine (by rw [counted]; exact later)
          rw [counted, Nat.add_comm] at whole
          exact whole

end Steps

-- The setup or one value: what was done for it as far as the sweep got, and the failure with which that ended.
structure Block (σ : Type) where
  value : Option Int
  deeds : List (Deed σ)
  failure : Option SweepFailure

def Block.results {σ : Type} (block : Block σ) : List StepResult := resultsIn block.deeds

def Block.noted {σ : Type} (policy : Policy) (block : Block σ) : List (Deed σ) :=
  block.deeds ++ (policy.keep block.failure.toList).map .note

inductive BlockCloses {σ : Type} (bench : Bench σ) (request : Request) (value : Option Int) :
    List (Deed σ) → Option SweepFailure → Prop where
  | unpatched (line : Text) (before : σ) (cause : PatchFailure) :
      (bench.patch (request.patchCall value line) before).answer = .error (.failure cause) →
      BlockCloses bench request value [.patch (request.patchCall value line) before]
        (some ⟨value, none, ⟨.patch cause, value, none⟩⟩)
  | ran (deeds : List (Deed σ)) (failure : Option SweepFailure) :
      StepsClose bench value 1 (request.stepCount value) deeds failure → BlockCloses bench request value deeds failure

-- A value begins with its patch, and the setup with its commands; there is nothing but commands after that.
def Block.Opens {σ : Type} (request : Request) (block : Block σ) : Prop :=
  match block.value with
  | none => OfSteps block.deeds
  | some value => ∃ line before rest, request.config.replacement value = .ok line ∧
      block.deeds = .patch (request.patchCall (some value) line) before :: rest ∧ OfSteps rest

structure Block.IsSound {σ : Type} (bench : Bench σ) (request : Request) (block : Block σ) : Prop where
  numbered : Numbered block.value 1 block.results
  passing : ∀ result ∈ block.results.dropLast, result.exitCode = 0
  closes : BlockCloses bench request block.value block.deeds block.failure
  fails : block.failure.isSome = block.deeds.any (Deed.isBad bench)
  opens : block.Opens request

def Part.block {σ : Type} (part : Part σ) (value : Option Int) : Block σ :=
  ⟨value, part.deeds, part.halt.bind Halt.failure?⟩

section Soundness

variable {σ : Type} {bench : Bench σ} {value : Option Int} {index : Int} {count : Nat} {request : Request}

theorem fine_passing (deeds : List (Deed σ)) (fine : Fine bench deeds) (result : StepResult)
    (there : result ∈ resultsIn deeds) : result.exitCode = 0 := by
  obtain ⟨deed, done, reported⟩ := List.mem_filterMap.mp there
  have good := fine deed done
  cases deed with
  | report other =>
      obtain rfl : other = result := Option.some.inj reported
      rw [Deed.isBad, Bool.not_eq_false'] at good
      exact beq_iff_eq.mp good
  | patch call before => cases reported
  | say message => cases reported
  | spawn step before => cases reported
  | note failure => cases reported

theorem steps_close_passing (deeds : List (Deed σ)) (failure : Option SweepFailure)
    (closes : StepsClose bench value index count deeds failure) (result : StepResult)
    (there : result ∈ (resultsIn deeds).dropLast) : result.exitCode = 0 := by
  cases closes with
  | passed _ fine counted => exact fine_passing deeds fine result ((List.dropLast_subset _) there)
  | unspawned early step before cause place fine answer placed =>
      have same : resultsIn (early ++ [.spawn step before]) = resultsIn early :=
        (results_in_append early _).trans (List.append_nil _)
      rw [same] at there
      exact fine_passing early fine result ((List.dropLast_subset _) there)
  | failed early last place fine bad placed =>
      have same : resultsIn (early ++ [.report last]) = resultsIn early ++ [last] := results_in_append early _
      rw [same, List.dropLast_concat] at there
      exact fine_passing early fine result there

theorem fine_any (deeds : List (Deed σ)) (fine : Fine bench deeds) : deeds.any (Deed.isBad bench) = false :=
  List.any_eq_false.mpr fun deed done => Bool.not_eq_true _ ▸ fine deed done

theorem bad_last (early : List (Deed σ)) (last : Deed σ) (bad : last.isBad bench = true) :
    (early ++ [last]).any (Deed.isBad bench) = true :=
  List.any_eq_true.mpr ⟨last, List.mem_append_right early (List.mem_singleton_self last), bad⟩

theorem steps_close_fails (deeds : List (Deed σ)) (failure : Option SweepFailure)
    (closes : StepsClose bench value index count deeds failure) :
    failure.isSome = deeds.any (Deed.isBad bench) := by
  cases closes with
  | passed _ fine counted => exact (fine_any deeds fine).symm
  | unspawned early step before cause place fine answer placed =>
      refine (bad_last early _ ?_).symm
      rw [Deed.isBad, answer]
  | failed early result place fine bad placed =>
      refine (bad_last early _ ?_).symm
      simpa [Deed.isBad, StepResult.isOk] using bad

theorem setup_sound (catches : Int → Bool) (before : σ)
    (calm : (bench.stepsPart none 1 request.setup before).IsCalm bench catches)
    (unfaulted : Unfaulted (bench.stepsPart none 1 request.setup before).halt) :
    ((bench.stepsPart none 1 request.setup before).block none).IsSound bench request := by
  have ran := steps_ran catches request.setup before calm unfaulted
  exact ⟨ran.numbered, steps_close_passing _ _ ran.closes, .ran _ _ ran.closes, steps_close_fails _ _ ran.closes,
    ran.ofSteps⟩

theorem patched_ran (catches : Int → Bool) (taken : Int) (line : Text) (before : σ)
    (calm : (bench.patchedPart request taken line before).IsCalm bench catches)
    (unfaulted : Unfaulted (bench.patchedPart request taken line before).halt) :
    StepsRan bench (some taken) 1 (request.stepCount (some taken)) (bench.patchedPart request taken line before).deeds
      (bench.patchedPart request taken line before).halt := by
  rw [Bench.patched_part_told] at calm unfaulted ⊢
  cases factory : request.steps taken with
  | error fault =>
      rw [factory] at unfaulted
      exact absurd rfl (unfaulted fault)
  | ok steps =>
      rw [factory] at calm unfaulted
      have counted := step_count_made request (some taken) steps factory
      have ran := steps_ran catches steps before ((calm_then _ _ bench catches calm).2 rfl) unfaulted
      rw [← counted] at ran
      exact ⟨ran.numbered, List.forall_mem_cons.mpr ⟨rfl, ran.ofSteps⟩,
        steps_close_silently [.say (valueMessage taken line)] _ _ rfl (List.forall_mem_singleton.mpr rfl) ran.closes⟩

theorem value_sound (catches : Int → Bool) (taken : Int) (before : σ)
    (calm : (bench.valuePart request taken before).IsCalm bench catches)
    (unfaulted : Unfaulted (bench.valuePart request taken before).halt) :
    ((bench.valuePart request taken before).block (some taken)).IsSound bench request := by
  rw [Bench.value_part_called] at calm unfaulted ⊢
  cases rendered : request.config.replacement taken with
  | error fault =>
      rw [rendered] at unfaulted
      exact absurd rfl (unfaulted fault)
  | ok line =>
      rw [rendered] at calm unfaulted
      dsimp only at calm unfaulted ⊢
      rcases answer : (bench.patch (request.patchCall (some taken) line) before).answer with (cause | fault) | previous
      · have bad : Deed.isBad bench (.patch (request.patchCall (some taken) line) before) = true := by
          rw [Deed.isBad, answer]
        exact ⟨numbered_nil, List.forall_mem_nil _, .unpatched line before cause answer, (bad_last [] _ bad).symm,
          line, before, [], rendered, rfl, List.forall_mem_nil _⟩
      · rw [answer] at unfaulted
        exact absurd rfl (unfaulted fault)
      · rw [answer] at calm unfaulted
        have good : Deed.isBad bench (.patch (request.patchCall (some taken) line) before) = false := by
          rw [Deed.isBad, answer]
        have ran := patched_ran catches taken line _ ((calm_then _ _ bench catches calm).2 rfl) unfaulted
        have closes := steps_close_silently [.patch (request.patchCall (some taken) line) before] _ _ rfl
          (List.forall_mem_singleton.mpr good) ran.closes
        exact ⟨ran.numbered, steps_close_passing _ _ closes, .ran _ _ closes, steps_close_fails _ _ closes,
          line, before, _, rendered, rfl, ran.ofSteps⟩

theorem of_steps_unnoted (deeds : List (Deed σ)) (ofSteps : OfSteps deeds) : failuresIn deeds = [] := by
  refine List.filterMap_eq_nil_iff.mpr ?_
  intro deed done
  have commanded := ofSteps deed done
  cases deed with
  | note failure => cases commanded
  | _ => rfl

theorem sound_unnoted (block : Block σ) (sound : block.IsSound bench request) : failuresIn block.deeds = [] := by
  have opens := sound.opens
  rw [Block.Opens] at opens
  split at opens
  · exact of_steps_unnoted block.deeds opens
  · obtain ⟨line, before, rest, _, deeds, ofSteps⟩ := opens
    rw [deeds]
    exact of_steps_unnoted rest ofSteps

theorem steps_close_located (deeds : List (Deed σ)) (failure : SweepFailure)
    (closes : StepsClose bench value index count deeds (some failure)) : failure.value = value := by
  cases closes with
  | unspawned early step before cause place fine answer placed => rfl
  | failed early result place fine bad placed => rfl

theorem block_closes_located (deeds : List (Deed σ)) (failure : SweepFailure)
    (closes : BlockCloses bench request value deeds (some failure)) : failure.value = value := by
  cases closes with
  | unpatched line before cause answer => rfl
  | ran _ _ closes => exact steps_close_located deeds failure closes

end Soundness

-- The values that a sweep has come to, and what it records of them.
structure Turns {σ : Type} (bench : Bench σ) (policy : Policy) (request : Request) (values : List Int)
    (turns : List (Block σ)) (part : Part σ) : Prop where
  deeds : part.deeds = turns.flatMap (Block.noted policy)
  failures : failuresIn part.deeds ++ (part.halt.bind Halt.failure?).toList =
    turns.flatMap fun turn => turn.failure.toList
  started : turns.map Block.value = (values.take turns.length).map some
  sound : ∀ turn ∈ turns, turn.IsSound bench request
  complete : (∀ turn ∈ turns, turn.failure = none) → turns.length = values.length

section Turning

variable {σ : Type} {bench : Bench σ} {policy : Policy} {request : Request}

theorem unfaulted_early (part : Part σ) (value : Int) (next : σ → Part σ)
    (unfaulted : Unfaulted ((part.settled policy value).andThen next).halt) : Unfaulted part.halt := by
  intro fault halted
  have settled : part.settled policy value = part := by
    refine settled_errorless policy value part ?_
    rintro error same
    cases halted.symm.trans same
  rw [settled, and_then_halted part next _ halted] at unfaulted
  exact unfaulted fault halted

theorem settled_account (part : Part σ) (value : Int) (unfaulted : Unfaulted part.halt)
    (sound : (part.block (some value)).IsSound bench request) :
    (part.settled policy value).deeds = (part.block (some value)).noted policy ∧
      failuresIn (part.settled policy value).deeds ++ ((part.settled policy value).halt.bind Halt.failure?).toList =
        (part.block (some value)).failure.toList := by
  have unnoted : failuresIn part.deeds = [] := sound_unnoted _ sound
  have closes := sound.closes
  rcases part with ⟨deeds, bench, _ | error | fault⟩
  · rw [settled_errorless policy value _ errorless_none, unnoted]
    refine ⟨?_, rfl⟩
    have nothing : (⟨deeds, bench, none⟩ : Part σ).block (some value) = ⟨some value, deeds, none⟩ := rfl
    rw [nothing, Block.noted, Option.toList_none, keep_nil]
    exact (List.append_nil deeds).symm
  · have located : error.value = some value := block_closes_located deeds (.ofError error) closes
    have same : (⟨some value, error.step, error⟩ : SweepFailure) = .ofError error := by
      rw [SweepFailure.ofError, located]
    cases policy with
    | failFast =>
        refine ⟨(List.append_nil deeds).symm, ?_⟩
        exact congrArg (· ++ [SweepFailure.ofError error]) unnoted
    | goOn =>
        have noted : Part.settled .goOn value ⟨deeds, bench, some (.error error)⟩ =
            ⟨deeds ++ [.note (.ofError error)], bench, none⟩ := by
          rw [← same]
          rfl
        rw [noted, failures_in_append, unnoted]
        exact ⟨rfl, rfl⟩
  · exact absurd rfl (unfaulted fault)

theorem turns_cons (value : Int) (rest : List Int) (part later : Part σ) (turns : List (Block σ))
    (unfaulted : Unfaulted part.halt) (sound : (part.block (some value)).IsSound bench request)
    (going : (part.settled policy value).halt = none) (turned : Turns bench policy request rest turns later) :
    Turns bench policy request (value :: rest) (part.block (some value) :: turns)
      ⟨(part.settled policy value).deeds ++ later.deeds, later.bench, later.halt⟩ := by
  obtain ⟨deeds, failures⟩ := settled_account part value unfaulted sound
  rw [going] at failures
  refine ⟨?_, ?_, ?_, List.forall_mem_cons.mpr ⟨sound, turned.sound⟩, ?_⟩
  · rw [List.flatMap_cons, ← deeds, ← turned.deeds]
  · rw [List.flatMap_cons, ← failures, ← turned.failures, failures_in_append]
    simp
  · rw [List.map_cons, List.length_cons, List.take_succ_cons, List.map_cons, turned.started]
    rfl
  · intro clean
    have length := turned.complete fun turn later => clean turn (List.mem_cons_of_mem _ later)
    rw [List.length_cons, List.length_cons, length]

theorem turns_halted (value : Int) (rest : List Int) (part : Part σ) (unfaulted : Unfaulted part.halt)
    (sound : (part.block (some value)).IsSound bench request) (halt : Halt)
    (halted : (part.settled policy value).halt = some halt) :
    Turns bench policy request (value :: rest) [part.block (some value)] (part.settled policy value) := by
  obtain ⟨deeds, failures⟩ := settled_account part value unfaulted sound
  refine ⟨?_, ?_, rfl, List.forall_mem_singleton.mpr sound, ?_⟩
  · rw [List.flatMap_singleton, deeds]
  · rw [List.flatMap_singleton, failures]
  · intro clean
    have ends := settled_halted policy value part halt halted
    obtain ⟨error, rfl⟩ := unfaulted_error halt (ends ▸ unfaulted)
    have failed : (part.block (some value)).failure = some (.ofError error) := by
      rw [Part.block, ends]
      rfl
    cases failed.symm.trans (clean _ (List.mem_singleton_self _))

theorem values_turn (catches : Int → Bool) (values : List Int) (before : σ)
    (calm : (bench.valuesPart policy request values before).IsCalm bench catches)
    (unfaulted : Unfaulted (bench.valuesPart policy request values before).halt) :
    ∃ turns, Turns bench policy request values turns (bench.valuesPart policy request values before) := by
  induction values generalizing before with
  | nil => exact ⟨[], rfl, rfl, rfl, List.forall_mem_nil _, fun _ => rfl⟩
  | cons value rest ih =>
      rw [Bench.valuesPart] at calm unfaulted ⊢
      obtain ⟨early, late⟩ := calm_then _ _ bench catches calm
      have intact := unfaulted_early _ value _ unfaulted
      have sound := value_sound catches value before ((settled_calm_iff _ _ _ bench catches).mp early) intact
      cases stopped : ((bench.valuePart request value before).settled policy value).halt with
      | some halt =>
          rw [and_then_halted _ _ halt stopped]
          exact ⟨_, turns_halted value rest _ intact sound halt stopped⟩
      | none =>
          rw [and_then_next _ _ stopped] at unfaulted ⊢
          obtain ⟨turns, turned⟩ := ih _ (late stopped) unfaulted
          exact ⟨_, turns_cons value rest _ _ turns intact sound stopped turned⟩

end Turning

def Event.result? {σ : Type} : Event σ → Option StepResult
  | .result told => some told
  | _ => none

-- The setup and the values that the sweep has come to, as they make up the trace and the account of a run.
structure Blocks {σ : Type} (runner : Runner σ) (request : Request) (setup : Block σ) (turns : List (Block σ))
    (trace : List (Event σ)) (account : Outcome) : Prop where
  traced : trace = (setup.deeds ++ turns.flatMap (Block.noted runner.policy)).flatMap runner.shown
  results : account.results = setup.results ++ turns.flatMap Block.results
  failures : account.failures = setup.failure.toList ++ turns.flatMap fun turn => turn.failure.toList
  prepared : setup.value = none
  started : turns.map Block.value = (request.config.values.take turns.length).map some
  sound : ∀ block ∈ setup :: turns, block.IsSound runner.bench request
  unprepared : setup.failure ≠ none → turns = []
  told : trace.filterMap Event.result? = if runner.tellsResults then account.results else []
  isOk : account.isOk = true ↔
    turns.length = request.config.values.length ∧ ∀ block ∈ setup :: turns, block.failure = none

section Accounts

variable {σ : Type}

theorem shown_results (runner : Runner σ) (deed : Deed σ) :
    (runner.shown deed).filterMap Event.result? = if runner.tellsResults then deed.result?.toList else [] := by
  cases deed with
  | patch call before => simp [Runner.shown, Event.result?, Deed.result?]
  | say message =>
      rw [Runner.shown]
      split <;> simp [Event.result?, Deed.result?]
  | spawn step before => simp [Runner.shown, Event.result?, Deed.result?]
  | report result =>
      rw [Runner.shown]
      split <;> simp [List.filterMap_cons, Event.result?, Deed.result?]
  | note failure => simp [Runner.shown, Event.result?, Deed.result?]

theorem trace_results (runner : Runner σ) (deeds : List (Deed σ)) :
    (deeds.flatMap runner.shown).filterMap Event.result? = if runner.tellsResults then resultsIn deeds else [] := by
  induction deeds with
  | nil => simp [resultsIn]
  | cons deed rest ih =>
      rw [List.flatMap_cons, List.filterMap_append, shown_results, ih]
      split
      · cases made : deed.result? <;> simp [resultsIn, made]
      · rfl

theorem noted_results (policy : Policy) (block : Block σ) : resultsIn (block.noted policy) = block.results := by
  have nothing (failures : List SweepFailure) : resultsIn (failures.map (Deed.note (σ := σ))) = [] := by
    rw [resultsIn, List.filterMap_map]
    exact List.filterMap_eq_nil_iff.mpr fun failure _ => rfl
  rw [Block.noted, results_in_append, nothing, List.append_nil]
  rfl

theorem turns_results (policy : Policy) (turns : List (Block σ)) :
    resultsIn (turns.flatMap (Block.noted policy)) = turns.flatMap Block.results := by
  induction turns with
  | nil => rfl
  | cons turn rest ih => rw [List.flatMap_cons, List.flatMap_cons, results_in_append, noted_results, ih]

theorem of_halt_accounted (outcome account : Outcome) (halt : Option Halt)
    (told : (Ending.ofHalt outcome halt).account? = some account) :
    Unfaulted halt ∧ account = ⟨outcome.results, outcome.failures ++ (halt.bind Halt.failure?).toList⟩ := by
  rcases halt with _ | error | fault
  · obtain rfl : outcome = account := Option.some.inj told
    exact ⟨unfaulted_none, by rw [Option.bind_none, Option.toList_none, List.append_nil]⟩
  · obtain rfl : outcome.addFailure (.ofError error) = account := Option.some.inj told
    refine ⟨?_, rfl⟩
    rintro fault same
    cases same
  · cases told

theorem no_failures_iff (blocks : List (Block σ)) :
    (blocks.flatMap fun block => block.failure.toList) = [] ↔ ∀ block ∈ blocks, block.failure = none := by
  rw [List.flatMap_eq_nil_iff]
  simp only [Option.toList_eq_nil_iff]

theorem blocks_made (runner : Runner σ) (request : Request) (setup : Block σ) (turns : List (Block σ)) (part : Part σ)
    (account : Outcome) (deeds : part.deeds = setup.deeds ++ turns.flatMap (Block.noted runner.policy))
    (results : account.results = resultsIn part.deeds)
    (failures : account.failures = (setup :: turns).flatMap fun block => block.failure.toList)
    (prepared : setup.value = none)
    (started : turns.map Block.value = (request.config.values.take turns.length).map some)
    (sound : ∀ block ∈ setup :: turns, block.IsSound runner.bench request)
    (unprepared : setup.failure ≠ none → turns = [])
    (complete : (∀ block ∈ setup :: turns, block.failure = none) → turns.length = request.config.values.length) :
    Blocks runner request setup turns (part.deeds.flatMap runner.shown) account := by
  refine ⟨by rw [deeds], ?_, failures, prepared, started, sound, unprepared, ?_, ?_⟩
  · rw [results, deeds, results_in_append, turns_results]
    rfl
  · rw [trace_results, results]
  · rw [Outcome.isOk, List.isEmpty_iff, failures, no_failures_iff]
    exact ⟨fun clean => ⟨complete clean, clean⟩, And.right⟩

def Part.account (part : Part σ) : Outcome :=
  ⟨resultsIn part.deeds, failuresIn part.deeds ++ (part.halt.bind Halt.failure?).toList⟩

theorem sweep_blocks (runner : Runner σ) (request : Request) (before : σ) (catches : Int → Bool)
    (calm : (runner.bench.sweepPart runner.policy request before).IsCalm runner.bench catches)
    (unfaulted : Unfaulted (runner.bench.sweepPart runner.policy request before).halt) :
    ∃ setup turns, Blocks runner request setup turns
      ((runner.bench.sweepPart runner.policy request before).deeds.flatMap runner.shown)
      (runner.bench.sweepPart runner.policy request before).account := by
  rw [Bench.sweepPart] at calm unfaulted ⊢
  obtain ⟨early, late⟩ := calm_then _ _ runner.bench catches calm
  cases stopped : (runner.bench.stepsPart none 1 request.setup before).halt with
  | some halt =>
      rw [and_then_halted _ _ halt stopped] at unfaulted ⊢
      have sound := setup_sound catches before early unfaulted
      obtain ⟨error, rfl⟩ := unfaulted_error halt (stopped ▸ unfaulted)
      have failed : ((runner.bench.stepsPart none 1 request.setup before).block none).failure =
          some (.ofError error) := by
        rw [Part.block, stopped]
        rfl
      refine ⟨_, [], blocks_made runner request _ [] _ _ (List.append_nil _).symm rfl ?_ rfl rfl
        (List.forall_mem_singleton.mpr sound) (fun _ => rfl) ?_⟩
      · rw [List.flatMap_singleton]
        exact congrArg (· ++ _) (sound_unnoted _ sound)
      · intro clean
        cases failed.symm.trans (clean _ (List.mem_cons_self ..))
  | none =>
      rw [and_then_next _ _ stopped] at unfaulted ⊢
      have sound : ((runner.bench.stepsPart none 1 request.setup before).block none).IsSound runner.bench request :=
        setup_sound catches before early (stopped.symm ▸ unfaulted_none)
      obtain ⟨turns, turned⟩ := values_turn catches request.config.values _ (late stopped) unfaulted
      have passed : ((runner.bench.stepsPart none 1 request.setup before).block none).failure = none := by
        rw [Part.block, stopped]
        rfl
      refine ⟨_, turns, blocks_made runner request _ turns _ _ ?_ rfl ?_ rfl turned.started
        (List.forall_mem_cons.mpr ⟨sound, turned.sound⟩) (fun failed => absurd passed failed) ?_⟩
      · exact congrArg _ turned.deeds
      · have unnoted : failuresIn (runner.bench.stepsPart none 1 request.setup before).deeds = [] :=
          sound_unnoted _ sound
        rw [List.flatMap_cons, passed, ← turned.failures, Part.account, failures_in_append, unnoted]
        rfl
      · exact fun clean => turned.complete fun turn there => clean turn (List.mem_cons_of_mem _ there)

end Accounts

-- What a run that no signal disturbs tells of its results and failures is made up of blocks: that of the setup, and
-- those of the values that the sweep has come to, in their order. Every block is sound, and accounts for at most one
-- failure.
theorem undisturbed_account_has_blocks {σ : Type} (runner : Runner σ) (request : Request) (workplace : Workplace σ)
    (account : Outcome) (real : request.dryRun = false) (unrestored : request.restore = false)
    (undisturbed : runner.Undisturbed request workplace)
    (told : (runner.run request workplace).ending.account? = some account) :
    ∃ setup turns, Blocks runner request setup turns (runner.run request workplace).trace account := by
  rw [undisturbed_ending runner request workplace real unrestored undisturbed] at told
  obtain ⟨unfaulted, rfl⟩ := of_halt_accounted _ account _ told
  rw [undisturbed_trace runner request workplace real unrestored undisturbed]
  exact sweep_blocks runner request workplace.bench workplace.forwarder.enter.catches
    (calm_reference runner request workplace real unrestored undisturbed) unfaulted

theorem undisturbed_account_has_blocks_once :
    ∃ account, (Sample.runner.run (Sample.request false) (Sample.workplace Sample.failing)).ending.account? =
        some account ∧ account.results.length = 1 ∧ account.failures.length = 1 ∧
      Sample.runner.Undisturbed (Sample.request false) (Sample.workplace Sample.failing) ∧
      ∃ setup turns, Blocks Sample.runner (Sample.request false) setup turns
        (Sample.runner.run (Sample.request false) (Sample.workplace Sample.failing)).trace account := by
  have sizes : ((Sample.runner.run (Sample.request false) (Sample.workplace Sample.failing)).ending.account?).any
      (fun account => account.results.length == 1 && account.failures.length == 1) = true := by
    decide +kernel
  cases told : (Sample.runner.run (Sample.request false) (Sample.workplace Sample.failing)).ending.account? with
  | none =>
      rw [told] at sizes
      cases sizes
  | some account =>
      rw [told, Option.any_some, Bool.and_eq_true, beq_iff_eq, beq_iff_eq] at sizes
      exact ⟨account, rfl, sizes.1, sizes.2, sample_undisturbed, undisturbed_account_has_blocks Sample.runner
        (Sample.request false) (Sample.workplace Sample.failing) account rfl rfl sample_undisturbed told⟩

end ConstantSweep.Sweep

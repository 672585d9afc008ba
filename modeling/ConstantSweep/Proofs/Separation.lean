import ConstantSweep.Proofs.Target
import ConstantSweep.Proofs.Undisturbed

set_option autoImplicit false

namespace ConstantSweep.Sweep

open ConstantSweep.Signal
open ConstantSweep.Text

def Request.over (request : Request) (values : List Int) : Request :=
  { request with config := { request.config with values := values } }

-- A bench on which patches are made on the disk that the view shows, and whose processes leave the disk as it is and
-- answer by nothing but the step and what the target holds.
structure Bench.IsImpartial {σ : Type} (bench : Bench σ) (view : σ → Disk)
    (tests : Text → Except Regex.Fault (List Letter → Bool)) (target : Path) : Prop where
  patches : bench.PatchesOn view tests
  answers : ∃ answer : Step → Except Fault (List UInt8) → Except SpawnStop Measured,
    ∀ step before, (bench.spawn step before).answer = answer step ((view before).tree.read target)
  leaves : ∀ step before, view (bench.spawn step before).state = view before

-- The disk is the one of the beginning, but for what patches of other values have left in the target.
structure Request.Kept {σ : Type} (request : Request) (view : σ → Disk)
    (tests : Text → Except Regex.Fault (List Letter → Bool)) (initial before : σ) : Prop where
  unreadable : (view before).unreadable = (view initial).unreadable
  unwritable : (view before).unwritable = (view initial).unwritable
  held : ∃ first latest,
    request.Held tests (request.target view initial) (request.target view before) first latest

section Values

variable {σ : Type} {bench : Bench σ} {view : σ → Disk} {tests : Text → Except Regex.Fault (List Letter → Bool)}
  {request : Request} {initial before : σ}

theorem kept_concurs (fits : request.Fits tests) (kept : request.Kept view tests initial before) (line : Text)
    (value : Option Int) :
    Concurs request.config.target
      (patchWith (view before) (request.patchCall value line).request (tests request.config.pattern))
      (patchWith (view initial) (request.patchCall value line).request (tests request.config.pattern)) := by
  have readable : (view before).canRead request.config.target = (view initial).canRead request.config.target := by
    rw [Disk.canRead, Disk.canRead, kept.unreadable]
  have writable : (view before).canWrite request.config.target = (view initial).canWrite request.config.target := by
    rw [Disk.canWrite, Disk.canWrite, kept.unwritable]
  obtain ⟨first, latest, held⟩ := kept.held
  cases first with
  | none =>
      cases latest with
      | some value => cases held
      | none =>
          have target : (view before).tree.read request.config.target = (view initial).tree.read request.config.target :=
            held
          refine same_text_concurs (view before) (view initial) (request.patchCall value line).request _ ?_ writable
          change readText (view before) request.config.target = readText (view initial) request.config.target
          rw [readText, readText, Disk.read, Disk.read, kept.unreadable, target]
  | some previous =>
      cases latest with
      | none => cases held
      | some other =>
          obtain ⟨listed, test, fresh, old, new, compiled, rendered, began, current, rewrites⟩ := held
          obtain ⟨isBody, hits⟩ := fits other listed fresh rendered
          rw [compiled]
          exact rewritten_concurs (view before) (view initial) (request.patchCall value line).request test
            previous.toList fresh.toList old new rewrites isBody (hits test compiled) current began readable writable

theorem kept_from_start (initial : σ) : request.Kept view tests initial initial :=
  ⟨rfl, rfl, none, none, rfl⟩

theorem kept_left (kept : request.Kept view tests initial before) (after : σ) (left : view after = view before) :
    request.Kept view tests initial after := by
  have same : request.target view after = request.target view before :=
    congrArg (fun disk => disk.tree.read request.config.target) left
  obtain ⟨readable, writable, held⟩ := kept
  refine ⟨left ▸ readable, left ▸ writable, ?_⟩
  rw [same]
  exact held

theorem kept_patched (patches : bench.PatchesOn view tests) (fits : request.Fits tests)
    (kept : request.Kept view tests initial before) (value : Int) (listed : value ∈ request.config.values) (line : Text)
    (rendered : request.config.replacement value = .ok line) :
    request.Kept view tests initial (bench.patch (request.patchCall (some value) line) before).state := by
  cases answer : (bench.patch (request.patchCall (some value) line) before).answer with
  | error stop => exact kept_left kept _ (bench.patches_error patches _ before stop answer)
  | ok previous =>
      obtain ⟨readable, writable⟩ := bench.patches_permissions patches (request.patchCall (some value) line) before
      obtain ⟨first, latest, held⟩ := kept.held
      exact ⟨readable.trans kept.unreadable, writable.trans kept.unwritable, _, _,
        held_patched patches fits value listed line previous before rendered answer held⟩

-- What a patch for a value answers, and what it leaves in the target, does not depend on the values before it.
theorem kept_answers (patches : bench.PatchesOn view tests) (fits : request.Fits tests)
    (kept : request.Kept view tests initial before) (line : Text) (value : Option Int) :
    (∃ stop, (bench.patch (request.patchCall value line) before).answer = .error stop ∧
        (bench.patch (request.patchCall value line) initial).answer = .error stop) ∨
      (∃ previous previousToo, (bench.patch (request.patchCall value line) before).answer = .ok previous ∧
        (bench.patch (request.patchCall value line) initial).answer = .ok previousToo ∧
        request.target view (bench.patch (request.patchCall value line) before).state =
          request.target view (bench.patch (request.patchCall value line) initial).state) := by
  have concurs := kept_concurs fits kept line value
  generalize ended : patchWith (view before) (request.patchCall value line).request (tests request.config.pattern) =
    here at concurs
  generalize endedToo : patchWith (view initial) (request.patchCall value line).request (tests request.config.pattern) =
    there at concurs
  cases concurs with
  | refused stop => exact .inl ⟨stop, (patches.refused _ before stop ended).1, (patches.refused _ initial stop endedToo).1⟩
  | made patched other bytes back backToo =>
      obtain ⟨answer, after⟩ := patches.made _ before patched ended
      obtain ⟨answerToo, afterToo⟩ := patches.made _ initial other endedToo
      refine .inr ⟨_, _, answer, answerToo, ?_⟩
      rw [Request.target, Request.target, after, afterToo]
      exact back.trans backToo.symm

end Values

namespace Outcome

-- The results of one outcome after those of the other, and so with the failures.
def append (first second : Outcome) : Outcome :=
  ⟨first.results ++ second.results, first.failures ++ second.failures⟩

def join (outcomes : List Outcome) : Outcome :=
  ⟨outcomes.flatMap Outcome.results, outcomes.flatMap Outcome.failures⟩

theorem join_cons (first : Outcome) (rest : List Outcome) : join (first :: rest) = first.append (join rest) := by
  rw [join, join, append, List.flatMap_cons, List.flatMap_cons]

end Outcome

-- Two parts end in the same way and come to the same results and failures.
structure Part.Equals {σ : Type} (first second : Part σ) : Prop where
  halt : first.halt = second.halt
  outcome : first.outcome = second.outcome

section Parts

variable {σ : Type} {bench : Bench σ} {view : σ → Disk} {tests : Text → Except Regex.Fault (List Letter → Bool)}
  {request : Request} {target : Path} {initial before : σ}

theorem outcome_after (deeds : List (Deed σ)) (part : Part σ) (bench : σ) (halt : Option Halt) :
    Part.outcome ⟨deeds ++ part.deeds, bench, halt⟩ = (Part.outcome ⟨deeds, bench, none⟩).append part.outcome := by
  rw [Part.outcome, Part.outcome, Part.outcome, Outcome.append, List.filterMap_append, List.filterMap_append]

theorem then_equals (first second : Part σ) (next nextToo : σ → Part σ) (early : first.Equals second)
    (late : (next first.bench).Equals (nextToo second.bench)) :
    (first.andThen next).Equals (second.andThen nextToo) := by
  cases halted : second.halt with
  | some halt =>
      rw [and_then_halted first next halt (early.halt.trans halted), and_then_halted second nextToo halt halted]
      exact early
  | none =>
      rw [and_then_next first next (early.halt.trans halted), and_then_next second nextToo halted]
      refine ⟨late.halt, ?_⟩
      rw [outcome_after, outcome_after, late.outcome]
      exact congrArg (fun outcome => Outcome.append outcome _) early.outcome

theorem settled_equals (policy : Policy) (value : Int) (first second : Part σ) (same : first.Equals second) :
    (first.settled policy value).Equals (second.settled policy value) := by
  rcases first with ⟨deeds, bench, halt⟩
  rcases second with ⟨deedsToo, benchToo, haltToo⟩
  obtain ⟨sameHalt, outcome⟩ := same
  dsimp only at sameHalt
  subst sameHalt
  rcases halt with _ | error | fault <;> cases policy
  case some.error.goOn =>
    refine ⟨rfl, ?_⟩
    have noted := outcome_after deeds ⟨[.note ⟨some value, error.step, error⟩], bench, none⟩ bench none
    have notedToo := outcome_after deedsToo ⟨[.note ⟨some value, error.step, error⟩], benchToo, none⟩ benchToo none
    exact noted.trans ((congrArg (fun before => Outcome.append before _) outcome).trans notedToo.symm)
  all_goals exact ⟨rfl, outcome⟩

theorem settled_bench (policy : Policy) (value : Int) (part : Part σ) :
    (part.settled policy value).bench = part.bench := by
  rcases part with ⟨deeds, bench, _ | error | fault⟩ <;> cases policy <;> rfl

theorem then_left (part : Part σ) (next : σ → Part σ) (start : σ) (left : view part.bench = view start)
    (onward : ∀ middle, view middle = view start → view (next middle).bench = view start) :
    view (part.andThen next).bench = view start := by
  cases halted : part.halt with
  | some halt =>
      rw [and_then_halted part next halt halted]
      exact left
  | none =>
      rw [and_then_next part next halted]
      exact onward part.bench left

theorem step_left (impartial : bench.IsImpartial view tests target) (value : Option Int) (index : Int) (step : Step)
    (before : σ) : view (bench.stepPart value index step before).bench = view before := by
  have left := impartial.leaves step before
  rw [Bench.stepPart]
  cases stepMessage value index step with
  | error fault => rfl
  | ok message =>
      dsimp only
      cases (bench.spawn step before).answer <;> exact left

theorem steps_left (impartial : bench.IsImpartial view tests target) (value : Option Int) (index : Int)
    (steps : List Step) (before : σ) : view (bench.stepsPart value index steps before).bench = view before := by
  induction steps generalizing index before with
  | nil => rfl
  | cons step rest ih =>
      refine then_left _ _ before (step_left impartial value index step before) fun middle same => ?_
      exact (ih (index + 1) middle).trans same

theorem step_equals (impartial : bench.IsImpartial view tests target) (value : Option Int) (index : Int) (step : Step)
    (first second : σ) (same : (view first).tree.read target = (view second).tree.read target) :
    (bench.stepPart value index step first).Equals (bench.stepPart value index step second) := by
  obtain ⟨answer, answers⟩ := impartial.answers
  have agreed : (bench.spawn step first).answer = (bench.spawn step second).answer := by
    rw [answers, answers, same]
  rw [Bench.stepPart, Bench.stepPart]
  cases stepMessage value index step with
  | error fault => exact ⟨rfl, rfl⟩
  | ok message =>
      dsimp only
      rw [agreed]
      cases (bench.spawn step second).answer <;> exact ⟨rfl, rfl⟩

theorem steps_equal (impartial : bench.IsImpartial view tests target) (value : Option Int) (index : Int)
    (steps : List Step) (first second : σ) (same : (view first).tree.read target = (view second).tree.read target) :
    (bench.stepsPart value index steps first).Equals (bench.stepsPart value index steps second) := by
  induction steps generalizing index first second with
  | nil => exact ⟨rfl, rfl⟩
  | cons step rest ih =>
      refine then_equals _ _ _ _ (step_equals impartial value index step first second same) ?_
      refine ih (index + 1) _ _ ?_
      rw [step_left impartial, step_left impartial]
      exact same

theorem patched_equals (impartial : bench.IsImpartial view tests request.config.target) (value : Int) (line : Text)
    (first second : σ) (same : request.target view first = request.target view second) :
    (bench.patchedPart request value line first).Equals (bench.patchedPart request value line second) := by
  rw [Bench.patched_part_told, Bench.patched_part_told]
  cases request.steps value with
  | error fault => exact ⟨rfl, rfl⟩
  | ok steps => exact then_equals _ _ _ _ ⟨rfl, rfl⟩ (steps_equal impartial (some value) 1 steps first second same)

theorem patched_left (impartial : bench.IsImpartial view tests request.config.target) (value : Int) (line : Text)
    (before : σ) : view (bench.patchedPart request value line before).bench = view before := by
  rw [Bench.patched_part_told]
  cases request.steps value with
  | error fault => rfl
  | ok steps => exact steps_left impartial (some value) 1 steps before

theorem value_equals (impartial : bench.IsImpartial view tests request.config.target) (fits : request.Fits tests)
    (kept : request.Kept view tests initial before) (value : Int) (listed : value ∈ request.config.values) :
    (bench.valuePart request value before).Equals (bench.valuePart request value initial) ∧
      request.Kept view tests initial (bench.valuePart request value before).bench := by
  rw [Bench.value_part_called, Bench.value_part_called]
  cases rendered : request.config.replacement value with
  | error fault => exact ⟨⟨rfl, rfl⟩, kept⟩
  | ok line =>
      have onward := kept_patched impartial.patches fits kept value listed line rendered
      dsimp only
      rcases kept_answers impartial.patches fits kept line (some value) with
        ⟨stop, answer, answerToo⟩ | ⟨previous, previousToo, answer, answerToo, same⟩
      · rw [answer, answerToo]
        cases stop <;> exact ⟨⟨rfl, rfl⟩, onward⟩
      · rw [answer, answerToo]
        have patched := patched_equals impartial value line _ _ same
        refine ⟨then_equals _ _ _ _ ⟨rfl, rfl⟩ patched, ?_⟩
        exact kept_left onward _ (patched_left impartial value line _)

end Parts

def Ending.returned? : Ending → Option Outcome
  | .completed outcome => some outcome
  | _ => none

def Part.returned? {σ : Type} (part : Part σ) : Option Outcome := (Ending.ofHalt part.outcome part.halt).returned?

def Runner.apart {σ : Type} (runner : Runner σ) (request : Request) (workplace : Workplace σ) (values : List Int) :
    Option (List Outcome) :=
  values.mapM fun value => (runner.run (request.over [value]) workplace).ending.returned?

section Sweeps

variable {σ : Type} {bench : Bench σ} {view : σ → Disk} {tests : Text → Except Regex.Fault (List Letter → Bool)}
  {request : Request} {initial before : σ}

theorem returned_halted (part : Part σ) (halt : Halt) (halted : part.halt = some halt) : part.returned? = none := by
  rw [Part.returned?, halted]
  cases halt <;> rfl

theorem returned_then (part : Part σ) (next : σ → Part σ) (going : part.halt = none) :
    (part.andThen next).returned? = (next part.bench).returned?.map fun outcome => part.outcome.append outcome := by
  rw [and_then_next part next going, Part.returned?, Part.returned?, outcome_after]
  rcases (next part.bench).halt with _ | error | fault <;> rfl

theorem returned_equals (first second : Part σ) (same : first.Equals second) : first.returned? = second.returned? := by
  rw [Part.returned?, Part.returned?, same.halt, same.outcome]

theorem values_returned (impartial : bench.IsImpartial view tests request.config.target) (fits : request.Fits tests)
    (policy : Policy) (values : List Int) (within : ∀ value ∈ values, value ∈ request.config.values)
    (kept : request.Kept view tests initial before) :
    (bench.valuesPart policy request values before).returned? =
      (values.mapM fun value => ((bench.valuePart request value initial).settled policy value).returned?).map
        Outcome.join := by
  induction values generalizing before with
  | nil => rfl
  | cons value rest ih =>
      obtain ⟨listed, others⟩ := List.forall_mem_cons.mp within
      obtain ⟨same, onward⟩ := value_equals impartial fits kept value listed
      have equals := settled_equals policy value _ _ same
      rw [Bench.valuesPart, List.mapM_cons, ← returned_equals _ _ equals]
      cases halted : ((bench.valuePart request value before).settled policy value).halt with
      | some halt =>
          rw [and_then_halted _ _ halt halted, returned_halted _ halt halted]
          rfl
      | none =>
          have ended : ((bench.valuePart request value before).settled policy value).returned? =
              some ((bench.valuePart request value before).settled policy value).outcome := by
            rw [Part.returned?, halted]
            rfl
          rw [returned_then _ _ halted, settled_bench, ih others onward, ended]
          cases rest.mapM fun value => ((bench.valuePart request value initial).settled policy value).returned? with
          | none => rfl
          | some outcomes => exact congrArg some (Outcome.join_cons _ outcomes).symm

end Sweeps

section Runs

variable {σ : Type} {runner : Runner σ} {request : Request} {workplace : Workplace σ} {view : σ → Disk}
  {tests : Text → Except Regex.Fault (List Letter → Bool)}

theorem over_ending (values : List Int) (real : request.dryRun = false) (unprepared : request.setup = [])
    (unrestored : request.restore = false) (quiet : workplace.forwarder.enter.received = none)
    (calm : ∀ deed : Deed σ, deed.IsCalm runner.bench workplace.forwarder.enter.catches) :
    (runner.run (request.over values) workplace).ending = .ofHalt
      (runner.bench.valuesPart runner.policy (request.over values) values workplace.bench).outcome
      (runner.bench.valuesPart runner.policy (request.over values) values workplace.bench).halt := by
  have follows := run_all_enacts runner (request.over values) (.opening workplace) quiet
    (Forwarder.enter_is_inside workplace.forwarder) fun deed _ => calm deed
  have same : runner.reference (request.over values) workplace =
      runner.bench.valuesPart runner.policy (request.over values) values workplace.bench := by
    rw [Runner.reference, Bench.sweepPart, show (request.over values).setup = [] from unprepared]
    rfl
  rw [followed_ending runner (request.over values) workplace real unrestored follows, same]

theorem fits_within (values others : List Int) (fits : (request.over values).Fits tests)
    (within : ∀ value ∈ others, value ∈ values) : (request.over others).Fits tests :=
  fun value listed => fits value (within value listed)

theorem single_joined (returned : Int → Option Outcome) (value : Int) :
    ([value].mapM returned).map Outcome.join = returned value := by
  rw [List.mapM_cons, List.mapM_nil]
  cases returned value with
  | none => rfl
  | some outcome => simp [Outcome.join]

theorem map_m_congr {α β : Type} (first second : α → Option β) (values : List α)
    (same : ∀ value ∈ values, first value = second value) : values.mapM first = values.mapM second := by
  induction values with
  | nil => rfl
  | cons value rest ih =>
      obtain ⟨here, others⟩ := List.forall_mem_cons.mp same
      rw [List.mapM_cons, List.mapM_cons, here, ih others]

theorem map_m_made {α β : Type} (returned : α → Option β) (values : List α)
    (all : ∀ value ∈ values, (returned value).isSome = true) :
    values.mapM returned = some (values.filterMap returned) := by
  induction values with
  | nil => rfl
  | cons value rest ih =>
      obtain ⟨here, others⟩ := List.forall_mem_cons.mp all
      obtain ⟨block, found⟩ := Option.isSome_iff_exists.mp here
      rw [List.mapM_cons, ih others, List.filterMap_cons, found]
      rfl

theorem map_m_all {α β : Type} (returned : α → Option β) (values : List α) (blocks : List β)
    (made : values.mapM returned = some blocks) : ∀ value ∈ values, (returned value).isSome = true := by
  induction values generalizing blocks with
  | nil => exact List.forall_mem_nil _
  | cons value rest ih =>
      rw [List.mapM_cons] at made
      cases found : returned value with
      | none =>
          rw [found] at made
          cases made
      | some block =>
          cases madeRest : rest.mapM returned with
          | none =>
              rw [found, madeRest] at made
              cases made
          | some others => exact List.forall_mem_cons.mpr ⟨congrArg Option.isSome found, ih others madeRest⟩

theorem map_m_perm {α β : Type} (returned : α → Option β) (values shuffled : List α) (perm : values.Perm shuffled)
    (blocks : List β) (made : values.mapM returned = some blocks) :
    ∃ permuted, blocks.Perm permuted ∧ shuffled.mapM returned = some permuted := by
  have all := map_m_all returned values blocks made
  have found : values.filterMap returned = blocks := Option.some.inj ((map_m_made returned values all).symm.trans made)
  refine ⟨shuffled.filterMap returned, found ▸ perm.filterMap returned, map_m_made returned shuffled ?_⟩
  intro value listed
  exact all value (perm.mem_iff.mpr listed)

theorem real_joined (values : List Int) (real : request.dryRun = false) (unprepared : request.setup = [])
    (unrestored : request.restore = false) (quiet : workplace.forwarder.enter.received = none)
    (calm : ∀ deed : Deed σ, deed.IsCalm runner.bench workplace.forwarder.enter.catches)
    (impartial : runner.bench.IsImpartial view tests request.config.target)
    (fits : (request.over values).Fits tests) :
    (runner.run (request.over values) workplace).ending.returned? =
      (runner.apart request workplace values).map Outcome.join := by
  have returned (others : List Int) (within : ∀ value ∈ others, value ∈ values) :
      (runner.run (request.over others) workplace).ending.returned? =
        (others.mapM fun value => ((runner.bench.valuePart request value workplace.bench).settled runner.policy
          value).returned?).map Outcome.join := by
    rw [over_ending others real unprepared unrestored quiet calm]
    have fitting := fits_within values others fits within
    have impartialToo : runner.bench.IsImpartial view tests (request.over others).config.target := impartial
    exact values_returned impartialToo fitting runner.policy others (fun _ => id) (kept_from_start workplace.bench)
  rw [returned values fun _ => id, Runner.apart]
  refine congrArg (Option.map Outcome.join) (map_m_congr _ _ values fun value listed => ?_)
  have single := returned [value] fun other same => List.mem_singleton.mp same ▸ listed
  rw [single_joined] at single
  exact single.symm

theorem untold_joined (request : Request) (values : List Int) :
    (Ending.ofHalt .empty (values.findSome? request.untold?)).returned? =
      (values.mapM fun value => (Ending.ofHalt .empty ([value].findSome? request.untold?)).returned?).map
        Outcome.join := by
  induction values with
  | nil => rfl
  | cons value rest ih =>
      rw [List.mapM_cons, List.findSome?_cons, List.findSome?_cons]
      cases request.untold? value with
      | some halt => cases halt <;> rfl
      | none =>
          dsimp only
          rw [ih]
          cases rest.mapM fun value => (Ending.ofHalt .empty ([value].findSome? request.untold?)).returned? with
          | none => rfl
          | some outcomes => exact congrArg some (Outcome.join_cons .empty outcomes).symm

theorem dry_joined (values : List Int) (dry : request.dryRun = true) :
    (runner.run (request.over values) workplace).ending.returned? =
      (runner.apart request workplace values).map Outcome.join := by
  have returned (others : List Int) : (runner.run (request.over others) workplace).ending.returned? =
      (Ending.ofHalt .empty (others.findSome? request.untold?)).returned? := by
    obtain ⟨added, _, ran⟩ := dry_run_tells runner (request.over others) dry
    rw [ran]
    rfl
  rw [returned, untold_joined, Runner.apart]
  exact congrArg (Option.map Outcome.join) (map_m_congr _ _ values fun value _ => (returned [value]).symm)

theorem settled_lenient (value : Int) (part : Part σ) : Errorless (part.settled .goOn value).halt := by
  rcases part with ⟨deeds, bench, _ | error | fault⟩
  · exact errorless_none
  · exact errorless_none
  · exact errorless_fault fault

theorem values_errorless (bench : Bench σ) (request : Request) (values : List Int) (before : σ) :
    Errorless (bench.valuesPart .goOn request values before).halt := by
  induction values generalizing before with
  | nil => exact errorless_none
  | cons value rest ih =>
      rw [Bench.valuesPart]
      have errorless := settled_lenient value (bench.valuePart request value before)
      cases halted : ((bench.valuePart request value before).settled .goOn value).halt with
      | none =>
          rw [and_then_next _ _ halted]
          exact ih _
      | some halt =>
          rw [and_then_halted _ _ halt halted]
          exact errorless

theorem over_unfailing (values : List Int) (lenient : runner.policy = .goOn) (unprepared : request.setup = [])
    (unrestored : request.restore = false) (quiet : workplace.forwarder.enter.received = none)
    (calm : ∀ deed : Deed σ, deed.IsCalm runner.bench workplace.forwarder.enter.catches) (error : SweepError)
    (outcome : Outcome) : (runner.run (request.over values) workplace).ending ≠ .failed error outcome := by
  cases dry : request.dryRun with
  | true =>
      obtain ⟨added, _, ran⟩ := dry_run_tells runner (request.over values) dry
      rw [ran]
      exact of_halt_unfailing .empty outcome _ error (untold_errorless (request.over values) _)
  | false =>
      have errorless := values_errorless runner.bench (request.over values) values workplace.bench
      rw [over_ending values dry unprepared unrestored quiet calm, lenient]
      exact of_halt_unfailing _ outcome _ error errorless

end Runs

namespace Sample

-- A process that only looks at the target, and fails unless it holds four bytes.
def gauged (content : Except Fault (List UInt8)) : Measured :=
  match content with
  | .ok bytes => if bytes.length = 4 then measured else { measured with exitCode := 1 }
  | .error _ => measured

def gauge : Bench Disk :=
  ⟨patchDisk, fun _ disk => ⟨disk, .ok (gauged (disk.tree.read config.target)), [], []⟩, .absent⟩

def gauging : Runner Disk := ⟨gauge, .goOn, false, false⟩

def gaugePlace : Workplace Disk := ⟨disk, Signal.Forwarder.idle [2, 15] fun _ => .initial 0, none⟩

end Sample

theorem gauge_impartial : Sample.gauge.IsImpartial id lineTest Sample.config.target where
  patches := ⟨patch_disk_made, patch_disk_refused⟩
  answers := ⟨fun _ content => .ok (Sample.gauged content), fun _ _ => rfl⟩
  leaves _ _ := rfl

theorem gauge_calm (catches : Int → Bool) (deed : Deed Disk) : deed.IsCalm Sample.gauge catches := by
  cases deed with
  | patch call before =>
      have silent : (patchDisk call before).signals = [] := by
        rw [patchDisk]
        split <;> rfl
      change caught catches (patchDisk call before).signals = none
      rw [silent]
      rfl
  | spawn step before =>
      refine ⟨rfl, ?_⟩
      intro signal same
      cases same
  | say message => trivial
  | report result => trivial
  | note failure => trivial

theorem sample_values_fit : ((Sample.request false).over [2, 30]).Fits lineTest := by
  intro value member line rendered
  rcases List.mem_cons.mp member with rfl | other
  · exact sample_line 2 "X=2" line (by decide +kernel) ⟨by decide, by decide, by decide⟩ (by decide +kernel) rendered
  · obtain rfl := List.mem_singleton.mp other
    exact sample_line 30 "X=30" line (by decide +kernel) ⟨by decide, by decide, by decide⟩ (by decide +kernel) rendered

-- The results and the failures of a sweep over several values are those of the sweeps over each value alone, one after
-- the other; so another order of the values only puts them in that order.
theorem values_are_kept_apart {σ : Type} (runner : Runner σ) (request : Request) (workplace : Workplace σ)
    (view : σ → Disk) (tests : Text → Except Regex.Fault (List Letter → Bool)) (values : List Int)
    (lenient : runner.policy = .goOn) (unprepared : request.setup = []) (unrestored : request.restore = false)
    (quiet : workplace.forwarder.enter.received = none)
    (calm : ∀ deed : Deed σ, deed.IsCalm runner.bench workplace.forwarder.enter.catches)
    (impartial : runner.bench.IsImpartial view tests request.config.target)
    (fits : (request.over values).Fits tests) :
    (∀ error outcome, (runner.run (request.over values) workplace).ending ≠ .failed error outcome) ∧
      (runner.run (request.over values) workplace).ending.returned? =
        (runner.apart request workplace values).map Outcome.join ∧
      ∀ shuffled blocks, values.Perm shuffled → runner.apart request workplace values = some blocks →
        ∃ permuted, blocks.Perm permuted ∧ runner.apart request workplace shuffled = some permuted ∧
          (runner.run (request.over shuffled) workplace).ending.returned? = some (Outcome.join permuted) := by
  have joined (others : List Int) (within : ∀ value ∈ others, value ∈ values) :
      (runner.run (request.over others) workplace).ending.returned? =
        (runner.apart request workplace others).map Outcome.join := by
    cases dry : request.dryRun with
    | true => exact dry_joined others dry
    | false =>
        exact real_joined others dry unprepared unrestored quiet calm impartial (fits_within values others fits within)
  refine ⟨over_unfailing values lenient unprepared unrestored quiet calm, joined values fun _ => id, ?_⟩
  · intro shuffled blocks perm made
    obtain ⟨permuted, permutes, madeToo⟩ := map_m_perm _ values shuffled perm blocks made
    refine ⟨permuted, permutes, madeToo, ?_⟩
    rw [joined shuffled fun value listed => perm.mem_iff.mpr listed]
    exact congrArg (Option.map Outcome.join) madeToo

theorem values_are_kept_apart_once :
    (Sample.gauging.apart (Sample.request false) Sample.gaugePlace [2, 30]).map
        (fun blocks => blocks.map fun block => (block.results.length, block.failures.length)) = some [(1, 0), (1, 1)] ∧
      (∀ error outcome,
        (Sample.gauging.run ((Sample.request false).over [2, 30]) Sample.gaugePlace).ending ≠ .failed error outcome) ∧
      (Sample.gauging.run ((Sample.request false).over [2, 30]) Sample.gaugePlace).ending.returned? =
        (Sample.gauging.apart (Sample.request false) Sample.gaugePlace [2, 30]).map Outcome.join ∧
      ∀ shuffled blocks, [2, 30].Perm shuffled →
        Sample.gauging.apart (Sample.request false) Sample.gaugePlace [2, 30] = some blocks →
        ∃ permuted, blocks.Perm permuted ∧
          Sample.gauging.apart (Sample.request false) Sample.gaugePlace shuffled = some permuted ∧
          (Sample.gauging.run ((Sample.request false).over shuffled) Sample.gaugePlace).ending.returned? =
            some (Outcome.join permuted) :=
  ⟨by decide +kernel, values_are_kept_apart Sample.gauging (Sample.request false) Sample.gaugePlace id lineTest [2, 30]
    rfl rfl rfl rfl (gauge_calm _) gauge_impartial sample_values_fit⟩

end ConstantSweep.Sweep

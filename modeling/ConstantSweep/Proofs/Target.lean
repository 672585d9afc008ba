import ConstantSweep.Proofs.Benches

set_option autoImplicit false

namespace ConstantSweep.Sweep

open ConstantSweep.Text

def Call.applied? {σ : Type} : Call σ → Option Int
  | .patch done =>
      match done.call.value, done.answer with
      | some value, .ok _ => some value
      | _, _ => none
  | .spawn _ => none

def lastApplied {σ : Type} (calls : List (Call σ)) : Option Int := (calls.filterMap Call.applied?).getLast?

theorem last_applied_append {σ : Type} (first second : List (Call σ)) :
    lastApplied (first ++ second) = (lastApplied second).or (lastApplied first) := by
  rw [lastApplied, List.filterMap_append, List.getLast?_append]
  rfl

section Target

variable {σ : Type} (view : σ → Disk) (tests : Text → Except Regex.Fault (List Letter → Bool)) (request : Request)

def Request.target (state : σ) : Except Fault (List UInt8) := (view state).tree.read request.config.target

def Request.Fits : Prop :=
  ∀ value ∈ request.config.values, ∀ line, request.config.replacement value = .ok line →
    IsBody line.toList ∧ ∀ test, tests request.config.pattern = .ok test → test line.toList = true

def LeaveTarget (bench : Bench σ) (calls : List (Call σ)) : Prop :=
  ∀ done, .spawn done ∈ calls →
    request.target view (bench.spawn done.step done.before).state = request.target view done.before

def Request.PatchedFor (initial current : Except Fault (List UInt8)) (previous : Text) (value : Int) : Prop :=
  ∃ test line old new, tests request.config.pattern = .ok test ∧ request.config.replacement value = .ok line ∧
    initial = .ok old ∧ current = .ok new ∧ Rewrites test previous.toList line.toList old new

-- What the commands of a value are to find, and what those of the setup are.
def Request.FileFor (initial current : Except Fault (List UInt8)) : Option Int → Prop
  | none => current = initial
  | some value => ∃ previous, request.PatchedFor tests initial current previous value

-- What is there is known from the first line that a patch found and the last value for which one was made.
def Request.Held (initial current : Except Fault (List UInt8)) : Option Text → Option Int → Prop
  | none, none => current = initial
  | some previous, some value =>
      value ∈ request.config.values ∧ request.PatchedFor tests initial current previous value
  | _, _ => False

theorem held_file (initial current : Except Fault (List UInt8)) (first : Option Text) (latest : Option Int)
    (held : request.Held tests initial current first latest) : request.FileFor tests initial current latest := by
  cases first with
  | none =>
      cases latest with
      | none => exact held
      | some value => cases held
  | some previous =>
      cases latest with
      | none => cases held
      | some value => exact ⟨previous, held.2⟩

end Target

section Courses

variable {σ : Type} {view : σ → Disk} {tests : Text → Except Regex.Fault (List Letter → Bool)} {request : Request}
  {bench : Bench σ} {catches : Int → Bool} {policy : Policy} {turn : Nat} {value : Option Int} {index : Int}
  {calls : List (Call σ)} {start last : Standing σ} {halt : Option Halt} {initial : Except Fault (List UInt8)}
  {first : Option Text} {latest : Option Int}

theorem leave_target_append (early later : List (Call σ)) :
    LeaveTarget view request bench (early ++ later) ↔
      LeaveTarget view request bench early ∧ LeaveTarget view request bench later := by
  constructor
  · intro leave
    exact ⟨fun done made => leave done (List.mem_append_left _ made),
      fun done made => leave done (List.mem_append_right _ made)⟩
  · rintro ⟨leave, leaveToo⟩ done made
    exact (List.mem_append.mp made).elim (leave done) (leaveToo done)

theorem step_target (step : Step) (course : StepCourse bench catches turn value index step start calls last halt)
    (leave : LeaveTarget view request bench calls) :
    request.target view last.bench = request.target view start.bench ∧
      ∀ call ∈ calls, request.target view call.before = request.target view start.bench := by
  rcases step_calls step course with ⟨rfl, same⟩ | ⟨rfl, same⟩
  · exact ⟨congrArg _ same, List.forall_mem_nil _⟩
  · have left := leave (bench.spawnDone catches turn value index step start.bench) (List.mem_singleton_self _)
    refine ⟨(congrArg _ same).trans left, ?_⟩
    intro call made
    obtain rfl := List.mem_singleton.mp made
    rfl

theorem steps_target (steps : List Step)
    (course : StepsCourse bench catches turn value index steps start calls last halt)
    (leave : LeaveTarget view request bench calls) :
    request.target view last.bench = request.target view start.bench ∧
      ∀ call ∈ calls, request.target view call.before = request.target view start.bench := by
  induction course with
  | done index start => exact ⟨rfl, List.forall_mem_nil _⟩
  | halted index step rest start calls last halt ran => exact step_target step ran leave
  | next index step rest start calls later middle last halt ran _ ih =>
      obtain ⟨leaveHere, leaveThere⟩ := (leave_target_append calls later).mp leave
      obtain ⟨sameHere, befores⟩ := step_target step ran leaveHere
      obtain ⟨sameThere, beforesThere⟩ := ih leaveThere
      refine ⟨sameThere.trans sameHere, ?_⟩
      intro call made
      rcases List.mem_append.mp made with here | there
      · exact befores call here
      · exact (beforesThere call there).trans sameHere

theorem patched_target (taken : Int)
    (course : PatchedCourse bench catches policy request turn taken start calls last halt)
    (leave : LeaveTarget view request bench calls) :
    request.target view last.bench = request.target view start.bench ∧
      ∀ call ∈ calls, request.target view call.before = request.target view start.bench := by
  cases course with
  | noticed signal flag => exact ⟨rfl, List.forall_mem_nil _⟩
  | stepless fault quiet factory => exact ⟨rfl, List.forall_mem_nil _⟩
  | ran steps calls last halt quiet factory ran => exact steps_target steps ran leave

theorem held_patched (patches : bench.PatchesOn view tests) (fits : request.Fits tests) (taken : Int)
    (listed : taken ∈ request.config.values) (line previous : Text) (before : σ)
    (rendered : request.config.replacement taken = .ok line)
    (answer : (bench.patch (request.patchCall (some taken) line) before).answer = .ok previous)
    (held : request.Held tests initial (request.target view before) first latest) :
    request.Held tests initial (request.target view (bench.patch (request.patchCall (some taken) line) before).state)
      (first.or (some previous)) (some taken) := by
  obtain ⟨test, old, new, compiled, _, _, stored, written, rewrites⟩ := bench.patches_ok patches _ before previous answer
  cases first with
  | none =>
      cases latest with
      | some value => cases held
      | none => exact ⟨listed, test, line, old, new, compiled, rendered, held.symm.trans stored, written, rewrites⟩
  | some earliest =>
      cases latest with
      | none => cases held
      | some value =>
          obtain ⟨inside, test₁, line₁, old₁, new₁, compiled₁, rendered₁, began, current, rewrites₁⟩ := held
          obtain ⟨isBody, hits⟩ := fits value inside line₁ rendered₁
          cases compiled₁.symm.trans compiled
          cases current.symm.trans stored
          exact ⟨listed, test, line, old₁, new, compiled, rendered, began, written,
            rewrites_over test _ _ _ _ _ _ _ rewrites₁ rewrites isBody (hits test compiled)⟩

theorem processes_apply_nothing (calls : List (Call σ)) (processes : ∀ call ∈ calls, ∃ done, call = .spawn done) :
    firstPrevious calls = none ∧ lastApplied calls = none := by
  have unfound : ∀ call ∈ calls, call.previous? = none ∧ call.applied? = none := by
    intro call made
    obtain ⟨done, rfl⟩ := processes call made
    exact ⟨rfl, rfl⟩
  have nothing : calls.filterMap Call.applied? = [] :=
    List.filterMap_eq_nil_iff.mpr fun call made => (unfound call made).2
  refine ⟨List.findSome?_eq_none_iff.mpr fun call made => (unfound call made).1, ?_⟩
  rw [lastApplied, nothing]
  rfl

theorem patch_applied (turn : Nat) (taken : Int) (line : Text) (before : σ) (answer : Except PatchStop Text)
    (same : (bench.patch (request.patchCall (some taken) line) before).answer = answer) :
    firstPrevious [.patch (bench.patchDone turn (request.patchCall (some taken) line) before)] = answer.toOption ∧
      lastApplied [.patch (bench.patchDone turn (request.patchCall (some taken) line) before)] =
        answer.toOption.map fun _ => taken := by
  simp only [firstPrevious, lastApplied, List.findSome?_cons, List.filterMap_cons, Call.previous?, Call.applied?,
    Bench.patchDone, Request.patchCall] at same ⊢
  rw [same]
  cases answer <;> exact ⟨rfl, rfl⟩

theorem value_target (patches : bench.PatchesOn view tests) (fits : request.Fits tests) (taken : Int)
    (listed : taken ∈ request.config.values)
    (course : ValueCourse bench catches policy request turn taken start calls last halt)
    (leave : LeaveTarget view request bench calls)
    (held : request.Held tests initial (request.target view start.bench) first latest) :
    request.Held tests initial (request.target view last.bench) (first.or (firstPrevious calls))
        ((lastApplied calls).or latest) ∧
      ∀ done, .spawn done ∈ calls → request.FileFor tests initial (request.target view done.before) done.value := by
  have refused (line : Text) (stop : PatchStop)
      (answer : (bench.patch (request.patchCall (some taken) line) start.bench).answer = .error stop) :
      request.Held tests initial
        (request.target view (bench.patch (request.patchCall (some taken) line) start.bench).state)
        (first.or (firstPrevious [.patch (bench.patchDone turn (request.patchCall (some taken) line) start.bench)]))
        ((lastApplied [.patch (bench.patchDone turn (request.patchCall (some taken) line) start.bench)]).or latest) := by
    obtain ⟨unfound, unapplied⟩ := patch_applied turn taken line start.bench _ answer
    rw [unfound, unapplied, Request.target, bench.patches_error patches _ _ stop answer]
    exact (Option.or_none (o := first)).symm ▸ held
  cases course with
  | unrendered fault rendered =>
      refine ⟨?_, fun done made => absurd made List.not_mem_nil⟩
      exact (Option.or_none (o := first)).symm ▸ held
  | crashed line fault rendered answer =>
      refine ⟨refused line (.fault fault) answer, ?_⟩
      intro done made
      cases List.mem_singleton.mp made
  | unpatched line failure rendered answer =>
      refine ⟨refused line (.failure failure) answer, ?_⟩
      intro done made
      cases List.mem_singleton.mp made
  | patched line previous later last halt rendered answer patched =>
      have leaveLater := ((leave_target_append [_] later).mp leave).2
      obtain ⟨sameThere, befores⟩ := patched_target taken patched leaveLater
      have heldNow := held_patched patches fits taken listed line previous start.bench rendered answer held
      have processes : ∀ call ∈ later, ∃ done, call = .spawn done := by
        intro call made
        obtain ⟨done, _, _, same, _⟩ := patched_placed taken patched call made
        exact ⟨done, same⟩
      obtain ⟨unfound, unapplied⟩ := processes_apply_nothing later processes
      obtain ⟨found, applied⟩ := patch_applied turn taken line start.bench _ answer
      constructor
      · rw [← List.singleton_append, first_previous_append, last_applied_append, found, applied, unfound, unapplied,
          sameThere]
        exact heldNow
      · intro done made
        rcases List.mem_cons.mp made with here | there
        · cases here
        · obtain ⟨_, _, _, shape, _, valued, _⟩ := patched_placed taken patched _ there
          cases shape
          have found : request.target view done.before = _ := befores (.spawn done) there
          rw [valued, found]
          exact held_file tests request _ _ _ _ heldNow

theorem values_target (patches : bench.PatchesOn view tests) (fits : request.Fits tests) (values : List Int)
    (listed : ∀ value ∈ values, value ∈ request.config.values)
    (course : ValuesCourse bench catches policy request turn values start calls last halt)
    (leave : LeaveTarget view request bench calls)
    (held : request.Held tests initial (request.target view start.bench) first latest) :
    request.Held tests initial (request.target view last.bench) (first.or (firstPrevious calls))
        ((lastApplied calls).or latest) ∧
      ∀ done, .spawn done ∈ calls → request.FileFor tests initial (request.target view done.before) done.value := by
  induction course generalizing first latest with
  | done turn start => exact ⟨(Option.or_none (o := first)).symm ▸ held, fun done made => absurd made List.not_mem_nil⟩
  | noticed turn value rest start signal flag =>
      exact ⟨(Option.or_none (o := first)).symm ▸ held, fun done made => absurd made List.not_mem_nil⟩
  | halted turn value rest start calls last halt quiet ran =>
      exact value_target patches fits value (listed value (List.mem_cons_self ..)) ran leave held
  | next turn value rest start calls later middle last halt quiet ran _ ih =>
      obtain ⟨leaveHere, leaveThere⟩ := (leave_target_append calls later).mp leave
      obtain ⟨heldHere, filesHere⟩ :=
        value_target patches fits value (listed value (List.mem_cons_self ..)) ran leaveHere held
      obtain ⟨heldThere, filesThere⟩ :=
        ih (fun other member => listed other (List.mem_cons_of_mem _ member)) leaveThere heldHere
      rw [Option.or_assoc] at heldThere
      rw [first_previous_append, last_applied_append, Option.or_assoc]
      refine ⟨heldThere, ?_⟩
      intro done made
      exact (List.mem_append.mp made).elim (filesHere done) (filesThere done)

theorem setup_target (tests : Text → Except Regex.Fault (List Letter → Bool))
    (course : StepsCourse bench catches 0 none 1 request.setup start calls last halt)
    (leave : LeaveTarget view request bench calls) :
    request.Held tests (request.target view start.bench) (request.target view last.bench) (firstPrevious calls)
        (lastApplied calls) ∧
      ∀ done, .spawn done ∈ calls →
        request.FileFor tests (request.target view start.bench) (request.target view done.before) done.value := by
  obtain ⟨same, befores⟩ := steps_target request.setup course leave
  have processes : ∀ call ∈ calls, ∃ done, call = .spawn done := by
    intro call made
    obtain ⟨done, _, shape, _⟩ := steps_placed request.setup course call made
    exact ⟨done, shape⟩
  obtain ⟨unfound, unapplied⟩ := processes_apply_nothing calls processes
  rw [unfound, unapplied]
  refine ⟨same, ?_⟩
  intro done made
  obtain ⟨_, _, shape, _, valueless, _⟩ := steps_placed request.setup course _ made
  cases shape
  rw [valueless]
  exact befores (.spawn done) made

theorem sweep_target (patches : bench.PatchesOn view tests) (fits : request.Fits tests)
    (course : SweepCourse bench catches policy request start calls last halt)
    (leave : LeaveTarget view request bench calls) :
    request.Held tests (request.target view start.bench) (request.target view last.bench) (firstPrevious calls)
        (lastApplied calls) ∧
      ∀ done, .spawn done ∈ calls →
        request.FileFor tests (request.target view start.bench) (request.target view done.before) done.value := by
  cases course with
  | halted calls last halt setup => exact setup_target tests setup leave
  | prepared early later middle last halt setup values =>
      obtain ⟨leaveHere, leaveThere⟩ := (leave_target_append early later).mp leave
      obtain ⟨heldHere, filesHere⟩ := setup_target tests setup leaveHere
      obtain ⟨heldThere, filesThere⟩ :=
        values_target patches fits request.config.values (fun _ member => member) values leaveThere heldHere
      rw [first_previous_append, last_applied_append]
      refine ⟨heldThere, ?_⟩
      intro done made
      exact (List.mem_append.mp made).elim (filesHere done) (filesThere done)

theorem run_target (patches : bench.PatchesOn view tests) (fits : request.Fits tests) (final : σ) (ending : Ending)
    (course : RunCourse bench catches policy request start calls final ending)
    (leave : LeaveTarget view request bench calls) :
    (∀ done, .spawn done ∈ calls →
        request.FileFor tests (request.target view start.bench) (request.target view done.before) done.value) ∧
      (request.restore = false →
        request.FileFor tests (request.target view start.bench) (request.target view final) (lastApplied calls)) := by
  cases course with
  | told ending dry unfailing => exact ⟨(fun done made => absurd made List.not_mem_nil), fun _ => rfl⟩
  | swept calls last halt real swept unrestored =>
      obtain ⟨held, files⟩ := sweep_target patches fits swept leave
      exact ⟨files, fun _ => held_file _ _ _ _ _ _ held⟩
  | restored early last halt line turn real swept restore found =>
      obtain ⟨leaveHere, _⟩ := (leave_target_append early _).mp leave
      obtain ⟨_, files⟩ := sweep_target patches fits swept leaveHere
      constructor
      · intro done made
        rcases List.mem_append.mp made with here | there
        · exact files done here
        · cases List.mem_singleton.mp there
      · intro unrestored
        rw [restore] at unrestored
        cases unrestored

end Courses

theorem stage_leaves_target (runner : Runner Stage) (request : Request) (workplace : Workplace Stage)
    (onStage : runner.bench = Stage.bench) (still : workplace.bench.script.IsStill) :
    LeaveTarget Stage.disk request runner.bench (runner.calls request workplace) := by
  intro done made
  have course := run_course runner request workplace
  rw [onStage] at course ⊢
  have stillThen := (run_keeps stage_keeps_still _ _ course still).2 _ made
  exact congrArg (fun disk : Disk => disk.tree.read request.config.target) (still_spawn done.step done.before stillThen)

theorem sample_line (value : Int) (text line : Text)
    (rendered : (Sample.config.replacement value).toOption = some text) (isBody : IsBody text.toList)
    (hit : (lineTest "X").toOption.map (fun test => test text.toList) = some true)
    (same : Sample.config.replacement value = .ok line) :
    IsBody line.toList ∧ ∀ test, lineTest "X" = .ok test → test line.toList = true := by
  rw [same] at rendered
  obtain rfl := Option.some.inj rendered
  refine ⟨isBody, ?_⟩
  intro test compiled
  rw [compiled] at hit
  exact Option.some.inj hit

theorem sample_fits (restore : Bool) : (Sample.request restore).Fits lineTest := by
  intro value member line rendered
  obtain rfl := List.mem_singleton.mp member
  exact sample_line 2 "X=2" line (by decide +kernel) ⟨by decide, by decide, by decide⟩ (by decide +kernel) rendered

-- Every command finds the file of its own value, and the commands of the setup find the file as it was at first.
theorem each_step_finds_its_file {σ : Type} (runner : Runner σ) (request : Request) (workplace : Workplace σ)
    (view : σ → Disk) (tests : Text → Except Regex.Fault (List Letter → Bool))
    (patches : runner.bench.PatchesOn view tests) (fits : request.Fits tests)
    (leave : LeaveTarget view request runner.bench (runner.calls request workplace)) :
    (∀ done, .spawn done ∈ runner.calls request workplace → done.IsPlaced request ∧
      request.FileFor tests (request.target view workplace.bench) (request.target view done.before) done.value) ∧
    (request.restore = false → request.FileFor tests (request.target view workplace.bench)
      (request.target view (runner.run request workplace).workplace.bench)
      (lastApplied (runner.calls request workplace))) := by
  have course := run_course runner request workplace
  obtain ⟨files, final⟩ := run_target patches fits _ _ course leave
  refine ⟨?_, final⟩
  intro done made
  rcases run_placed _ _ course _ made with placed | restored
  · exact ⟨placed, files done made⟩
  · cases restored

theorem each_step_finds_its_file_once :
    (Sample.runner.calls (Sample.request false) (Sample.workplace Sample.silent)).length = 2 ∧
    (∀ done, .spawn done ∈ Sample.runner.calls (Sample.request false) (Sample.workplace Sample.silent) →
      done.IsPlaced (Sample.request false) ∧ (Sample.request false).FileFor lineTest (.ok [88, 61, 49, 10])
        ((Sample.request false).target Stage.disk done.before) done.value) ∧
    (Sample.request false).FileFor lineTest (.ok [88, 61, 49, 10]) ((Sample.request false).target Stage.disk
      (Sample.runner.run (Sample.request false) (Sample.workplace Sample.silent)).workplace.bench) (some 2) := by
  have still : (Sample.workplace Sample.silent).bench.script.IsStill := ⟨rfl, List.forall_mem_nil _⟩
  obtain ⟨files, final⟩ := each_step_finds_its_file Sample.runner (Sample.request false) (Sample.workplace Sample.silent)
    Stage.disk lineTest stage_patches (sample_fits false) (stage_leaves_target _ _ _ rfl still)
  have applied : lastApplied (Sample.runner.calls (Sample.request false) (Sample.workplace Sample.silent)) = some 2 := by
    decide +kernel
  rw [applied] at final
  exact ⟨by decide +kernel, files, final rfl⟩

end ConstantSweep.Sweep

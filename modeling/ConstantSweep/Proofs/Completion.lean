import ConstantSweep.Proofs.Attempt
import ConstantSweep.Proofs.Mishap

set_option autoImplicit false

namespace ConstantSweep.Sweep

open ConstantSweep.Signal

-- A thing to be done: a patch, or a step with its number for a value or in the setup.
inductive Task where
  | patch (call : PatchCall)
  | spawn (value : Option Int) (index : Int) (step : Step)

def Call.task {σ : Type} : Call σ → Task
  | .patch done => .patch done.call
  | .spawn done => .spawn done.value done.index done.step

def stepTasks (value : Option Int) (index : Int) : List Step → List Task
  | [] => []
  | step :: rest => .spawn value index step :: stepTasks value (index + 1) rest

namespace Request

variable (request : Request)

def valueTasks (value : Int) : Except Fault (List Task) := do
  let line ← request.config.replacement value
  let steps ← request.steps value
  return .patch (request.patchCall (some value) line) :: stepTasks (some value) 1 steps

def valuesTasks : List Int → Except Fault (List Task)
  | [] => return []
  | value :: rest => do
      let first ← request.valueTasks value
      let later ← valuesTasks rest
      return first ++ later

-- The commands of the setup and, value by value, the patch and the commands of the value.
def sweepTasks : Except Fault (List Task) := do
  let values ← request.valuesTasks request.config.values
  return stepTasks none 1 request.setup ++ values

-- The calls are those that were asked for, each of them once, and no others; the last one puts back the line that the
-- first patch found.
def Performed {σ : Type} (calls : List (Call σ)) : Prop :=
  ∃ swept, request.sweepTasks = .ok swept ∧
    if request.restore then ∃ line, firstPrevious calls = some line ∧
      calls.map Call.task = swept ++ [.patch (request.patchCall none line)]
    else calls.map Call.task = swept

end Request

structure Does {σ : Type} (calls : List (Call σ)) (tasks : List Task) : Prop where
  tasks : calls.map Call.task = tasks
  good : ∀ call ∈ calls, call.isGood = true

section Completion

variable {σ : Type} {bench : Bench σ} {catches : Int → Bool} {turn : Nat} {value : Option Int} {index : Int}
  {calls : List (Call σ)} {start last : Standing σ} {halt : Option Halt} {policy : Policy} {request : Request}

theorem does_nothing : Does ([] : List (Call σ)) [] := ⟨rfl, List.forall_mem_nil _⟩

theorem does_cons (call : Call σ) (tasks : List Task) (good : call.isGood = true) (rest : Does calls tasks) :
    Does (call :: calls) (call.task :: tasks) :=
  ⟨by rw [List.map_cons, rest.tasks], List.forall_mem_cons.mpr ⟨good, rest.good⟩⟩

theorem does_append (later : List (Call σ)) (tasks more : List Task) (early : Does calls tasks)
    (late : Does later more) : Does (calls ++ later) (tasks ++ more) :=
  ⟨by rw [List.map_append, early.tasks, late.tasks], List.forall_mem_append.mpr ⟨early.good, late.good⟩⟩

theorem passed_good (step : Step) (before : σ) (measured : Measured)
    (told : bench.told catches step before = .ok measured) (zero : measured.exitCode = 0) :
    Call.isGood (.spawn (bench.spawnDone catches turn value index step before)) = true := by
  simp only [Call.isGood, Bench.spawnDone, told]
  exact beq_iff_eq.mpr zero

theorem steps_done (steps : List Step)
    (course : StepsCourse bench catches turn value index steps start calls last halt) (ended : halt = none) :
    Does calls (stepTasks value index steps) := by
  induction course with
  | done index start => exact does_nothing
  | halted index step rest start calls last halt first => cases ended
  | next index step rest start calls later middle last halt first _ ih =>
      cases first with
      | passed measured quiet told zero =>
          exact does_cons _ _ (passed_good step start.bench measured told zero) (ih ended)

theorem settled_unmishapped (ends : EndsByMishap calls halt) (going : policy.settle halt = none)
    (unmishapped : calls.findSome? Call.mishap? = none) : halt = none := by
  rcases halt with _ | error | fault
  · rfl
  · have mishap : error.cause.mishap? = none := ends.mishap.symm.trans unmishapped
    rw [Policy.settle] at going
    split at going
    · exact absurd mishap (of_step_mishap error ‹_›)
    · cases going
  · cases going

theorem value_done (taken : Int) (course : ValueCourse bench catches policy request turn taken start calls last halt)
    (ended : halt = none) (unmishapped : calls.findSome? Call.mishap? = none) :
    ∃ tasks, request.valueTasks taken = .ok tasks ∧ Does calls tasks := by
  cases course with
  | unrendered fault rendered => cases ended
  | crashed line fault rendered answer => cases ended
  | unpatched line failure rendered answer =>
      have mishap : [Call.patch (bench.patchDone turn (request.patchCall (some taken) line) start.bench)].findSome?
          Call.mishap? = some .patch := by
        simp [Call.mishap?, Bench.patchDone, answer]
      cases mishap.symm.trans unmishapped
  | patched line previous later last halt rendered answer patched =>
      have good : Call.isGood (.patch (bench.patchDone turn (request.patchCall (some taken) line) start.bench)) = true := by
        simp only [Call.isGood, Bench.patchDone, answer]
        rfl
      rw [List.findSome?_cons, good_no_mishap _ good] at unmishapped
      cases patched with
      | noticed signal flag => cases ended
      | stepless fault quiet factory => cases ended
      | ran steps calls last halt quiet factory ran =>
          have finished := settled_unmishapped (steps_end_by_mishap steps ran) ended unmishapped
          refine ⟨_, ?_, does_cons _ _ good (steps_done steps ran finished)⟩
          rw [Request.valueTasks, rendered, factory]
          rfl

theorem values_done (values : List Int)
    (course : ValuesCourse bench catches policy request turn values start calls last halt) (ended : halt = none)
    (unmishapped : calls.findSome? Call.mishap? = none) :
    ∃ tasks, request.valuesTasks values = .ok tasks ∧ Does calls tasks := by
  induction course with
  | done turn start => exact ⟨[], rfl, does_nothing⟩
  | noticed turn value rest start signal flag => cases ended
  | halted turn value rest start calls last halt quiet first => cases ended
  | next turn value rest start calls later middle last halt quiet first _ ih =>
      rw [List.findSome?_append, Option.or_eq_none_iff] at unmishapped
      obtain ⟨tasks, listed, done⟩ := value_done value first rfl unmishapped.1
      obtain ⟨more, listedOn, doneOn⟩ := ih ended unmishapped.2
      refine ⟨tasks ++ more, ?_, does_append later tasks more done doneOn⟩
      rw [Request.valuesTasks, listed, listedOn]
      rfl

theorem sweep_done (course : SweepCourse bench catches policy request start calls last halt) (ended : halt = none)
    (unmishapped : firstMishap .values calls = none) :
    ∃ tasks, request.sweepTasks = .ok tasks ∧ Does calls tasks := by
  cases course with
  | halted calls last halt setup => cases ended
  | prepared early later middle last halt setup values =>
      rw [first_mishap_append, Option.or_eq_none_iff,
        first_mishap_within .values later (values_phase request.config.values values)] at unmishapped
      obtain ⟨tasks, listed, done⟩ := values_done request.config.values values ended unmishapped.2
      refine ⟨_, ?_, does_append later _ tasks (steps_done request.setup setup rfl) done⟩
      rw [Request.sweepTasks, listed]
      rfl

theorem good_patch_previous (call : Call σ) (taken : Int) (line : Text) (good : call.isGood = true)
    (same : call.task = .patch (request.patchCall (some taken) line)) : call.previous? ≠ none := by
  cases call with
  | spawn done => cases same
  | patch done =>
      have asked : done.call = request.patchCall (some taken) line := Task.patch.inj same
      rw [Call.isGood] at good
      rw [Call.previous?, asked]
      cases answer : done.answer with
      | ok previous => exact Option.some_ne_none previous
      | error stop =>
          rw [answer] at good
          cases good

theorem values_tasks_patch (taken : Int) (rest : List Int) (tasks : List Task)
    (listed : request.valuesTasks (taken :: rest) = .ok tasks) :
    ∃ line, .patch (request.patchCall (some taken) line) ∈ tasks := by
  obtain ⟨first, here, listed⟩ := bind_ok listed
  obtain ⟨line, _, here⟩ := bind_ok here
  obtain ⟨steps, _, here⟩ := bind_ok here
  obtain ⟨more, _, listed⟩ := bind_ok listed
  cases here
  cases listed
  exact ⟨line, List.mem_cons_self ..⟩

theorem done_first_previous (tasks : List Task) (listed : request.sweepTasks = .ok tasks) (done : Does calls tasks)
    (valued : request.config.values ≠ []) : firstPrevious calls ≠ none := by
  obtain ⟨taken, rest, same⟩ := List.exists_cons_of_ne_nil valued
  rw [Request.sweepTasks, same] at listed
  obtain ⟨valuesTasks, tasked, listed⟩ := bind_ok listed
  cases listed
  obtain ⟨line, within⟩ := values_tasks_patch taken rest valuesTasks tasked
  have there := List.mem_append_right (stepTasks none 1 request.setup) within
  rw [← done.tasks] at there
  obtain ⟨call, made, same⟩ := List.mem_map.mp there
  intro nothing
  exact good_patch_previous call taken line (done.good call made) same (List.findSome?_eq_none_iff.mp nothing call made)

end Completion

end ConstantSweep.Sweep

import ConstantSweep.Proofs.ExitCode
import ConstantSweep.Proofs.Instantiation

set_option autoImplicit false

namespace ConstantSweep.Sweep

open ConstantSweep.Text

def StepSpec.IsDescribable (spec : StepSpec) : Prop :=
  spec.description.isTruthy = false ∨ ∃ text, spec.description = .text text

section Instances

variable (spec : StepSpec) (common : Env)

theorem setup_instance : ∃ step, spec.instantiate (CommonEnv.ofEnv common) none = .ok step := by
  have writes : Writes none := by
    rintro number same
    cases same
  rw [instantiate_written spec common none writes, StepSpec.described]
  split <;> exact ⟨_, rfl⟩

theorem value_instance (number : Int) (writable : Text.isWritable number = true) (describable : spec.IsDescribable) :
    ∃ step, spec.instantiate (CommonEnv.ofEnv common) (some number) = .ok step ∧ step.label.isOk = true := by
  rw [instantiate_written spec common (some number) (writes_some number writable), StepSpec.described]
  rcases describable with missing | ⟨text, same⟩
  · rw [missing, if_neg Bool.false_ne_true]
    exact ⟨_, rfl, rfl⟩
  · rw [same]
    split
    · rw [render_written (some number) (writes_some number writable)]
      refine ⟨_, rfl, ?_⟩
      rw [Step.label]
      split <;> rfl
    · exact ⟨_, rfl, rfl⟩

theorem instance_describable (number : Int) (step : Step) (writable : Text.isWritable number = true)
    (made : spec.instantiate (CommonEnv.ofEnv common) (some number) = .ok step) : spec.IsDescribable := by
  rw [instantiate_written spec common (some number) (writes_some number writable)] at made
  obtain ⟨description, described, _⟩ := map_ok made
  rw [StepSpec.described] at described
  split at described
  · cases given : spec.description with
    | text text => exact .inr ⟨text, given⟩
    | _ =>
        rw [given] at described
        cases described
  · rename_i missing
    exact .inl (Bool.eq_false_iff.mpr missing)

theorem steps_describable_iff (specs : List StepSpec) (number : Int) (commands : ∀ spec ∈ specs, spec.command ≠ []) :
    (∃ steps, stepsFor specs (CommonEnv.ofEnv common) (some number) = .ok steps ∧ steps.length = specs.length) ↔
      (specs = [] ∨ Text.isWritable number = true) ∧ ∀ spec ∈ specs, spec.IsDescribable := by
  constructor
  · rintro ⟨steps, made, _⟩
    have writes := steps_written specs _ number steps commands made
    refine ⟨writes, ?_⟩
    intro spec member
    obtain ⟨step, single⟩ := related_left ((map_m_iff _ specs steps).mp made) spec member
    rcases writes with rfl | writable
    · cases member
    · exact instance_describable spec common number step writable single
  · rintro ⟨writes, describable⟩
    apply map_m_total
    intro spec member
    rcases writes with rfl | writable
    · cases member
    · obtain ⟨step, single, _⟩ := value_instance spec common number writable (describable spec member)
      exact ⟨step, single⟩

end Instances

-- Whatever a request does for one of its values can be made up: the line, the commands and the messages about them.
structure Request.IsSound (request : Request) : Prop where
  lines : ∀ value ∈ request.config.values, ∃ line, request.config.replacement value = .ok line
  steps : ∀ value ∈ request.config.values, ∃ steps, request.steps value = .ok steps ∧
    ∀ step ∈ steps, step.label.isOk = true

def Unpatched {σ : Type} (calls : List (Call σ)) : Prop := ∀ call ∈ calls, ∃ done, call = .spawn done

section Crashes

variable {σ : Type} {bench : Bench σ} {catches : Int → Bool} {turn : Nat} {value : Option Int} {index : Int}
  {calls : List (Call σ)} {start last : Standing σ} {halt : Option Halt} {policy : Policy} {request : Request}
  {fault : Fault}

theorem passed_label (step : Step) (course : StepCourse bench catches turn value index step start calls last none) :
    step.label.isOk = true := by
  cases course with
  | passed measured quiet told zero named =>
      rw [stepMessage] at named
      cases label : step.label with
      | ok text => rfl
      | error fault =>
          rw [label] at named
          cases named

theorem passed_labels (steps : List Step) (course : StepsCourse bench catches turn value index steps start calls last halt)
    (passed : halt = none) : ∀ step ∈ steps, step.label.isOk = true := by
  induction course with
  | done index start => exact List.forall_mem_nil _
  | halted index step rest start calls last halt first => cases passed
  | next index step rest start calls later middle last halt first _ ih =>
      exact List.forall_mem_cons.mpr ⟨passed_label step first, ih passed⟩

theorem steps_unpatched (steps : List Step)
    (course : StepsCourse bench catches turn value index steps start calls last halt) : Unpatched calls := by
  intro call made
  obtain ⟨done, _, same, _⟩ := steps_placed steps course call made
  exact ⟨done, same⟩

theorem unpatched_previous (unpatched : Unpatched calls) : firstPrevious calls = none := by
  rw [firstPrevious, List.findSome?_eq_none_iff]
  intro call made
  obtain ⟨done, rfl⟩ := unpatched call made
  rfl

theorem sound_sweep_crash (sound : request.IsSound)
    (course : SweepCourse bench catches policy request start calls last (some (.fault fault))) :
    (∃ call ∈ calls, call.fault? = some fault) ∨ Unpatched calls := by
  generalize ended : some (Halt.fault fault) = halt at course
  cases course with
  | halted calls last halt setup => exact .inr (steps_unpatched request.setup setup)
  | prepared early later middle last halt setup values =>
      left
      cases values_stray request.config.values (fun _ => id) values ended.symm with
      | unrendered value listed rendered =>
          obtain ⟨line, made⟩ := sound.lines value listed
          cases made.symm.trans rendered
      | stepless value listed factory =>
          obtain ⟨steps, made, _⟩ := sound.steps value listed
          cases made.symm.trans factory
      | nameless value index steps step listed factory member named =>
          have labelled : step.label.isOk = true := by
            cases value with
            | none =>
                cases factory
                exact passed_labels request.setup setup rfl step member
            | some value =>
                obtain ⟨others, made, labels⟩ := sound.steps value (listed value rfl)
                cases made.symm.trans factory
                exact labels step member
          exact absurd named (labelled_message value index step fault labelled)
      | answered call made answer => exact ⟨call, List.mem_append_right early made, answer⟩

theorem sound_crash (sound : request.IsSound) (final : σ) (ending : Ending) (real : request.dryRun = false)
    (course : RunCourse bench catches policy request start calls final ending) (crashed : ending = .crashed fault) :
    (∃ call ∈ calls, call.fault? = some fault) ∨ Unpatched calls := by
  cases course with
  | told ending dry unfailing => exact absurd (dry.symm.trans real) Bool.true_eq_false.mp
  | swept calls last halt real swept unrestored =>
      rw [of_halt_crashed _ halt crashed] at swept
      exact sound_sweep_crash sound swept
  | restored early last halt line turn real swept restore found =>
      left
      rcases restored_crashed _ _ crashed with before | answer
      · rw [of_halt_crashed _ halt before] at swept
        rcases sound_sweep_crash sound swept with ⟨call, made, answer⟩ | unpatched
        · exact ⟨call, List.mem_append_left _ made, answer⟩
        · cases (unpatched_previous unpatched).symm.trans found
      · refine ⟨_, List.mem_append_right early (List.mem_singleton_self _), ?_⟩
        simp only [Call.fault?, Bench.patchDone, answer]

end Crashes

end ConstantSweep.Sweep

namespace ConstantSweep.CommandLine

open ConstantSweep.Sweep
open ConstantSweep.Text

section Planned

variable (plan : Plan)

theorem setup_planned (dryRun : Bool) : ∃ request setup, planRequest plan dryRun = .ok request ∧
    stepsFor plan.setup (CommonEnv.ofEnv plan.env) none = .ok setup ∧ setup.length = plan.setup.length := by
  obtain ⟨setup, made, counted⟩ := map_m_total (fun spec => StepSpec.instantiate spec (CommonEnv.ofEnv plan.env) none)
    plan.setup fun spec _ => setup_instance spec plan.env
  rw [planRequest, stepsFor, made]
  exact ⟨_, setup, rfl, rfl, counted⟩

theorem read_sound (read : plan.IsRead) (dryRun : Bool) (request : Request) (planned : planRequest plan dryRun = .ok request)
    (writable : ∀ value ∈ plan.config.values, Text.isWritable value = true)
    (describable : ∀ spec ∈ plan.steps, spec.IsDescribable) : request.IsSound := by
  obtain ⟨setup, _, planned⟩ := bind_ok planned
  cases planned
  constructor
  · intro value listed
    obtain ⟨text, template⟩ := read.template
    rw [SweepConfig.replacement, template, render_written (some value) (writes_some value (writable value listed))]
    exact ⟨_, rfl⟩
  · intro value listed
    have each (spec : StepSpec) (member : spec ∈ plan.steps) :=
      value_instance spec plan.env value (writable value listed) (describable spec member)
    obtain ⟨steps, made, labelled⟩ := map_m_related _ (fun _ step => (Step.label step).isOk = true) plan.steps each
    refine ⟨steps, made, ?_⟩
    intro step member
    obtain ⟨_, label⟩ := related_left labelled.flip step member
    exact label

end Planned

-- Whatever document a plan is read from, its setup can be made up. The commands of a value can be exactly if the value can
-- be written and all descriptions are texts; and where that is so for all values, no sweep crashes by itself after a patch.
theorem loaded_plan_instantiates_iff (read : List Char → Except Fault Datum) (tree : FileTree) (path : Path)
    (overrides : List (Text × Datum)) (plan : Plan) (loaded : Plan.loadWith read tree path overrides = .ok plan) :
    (∃ setup, stepsFor plan.setup (CommonEnv.ofEnv plan.env) none = .ok setup ∧ setup.length = plan.setup.length) ∧
    (∀ value, (∃ steps, stepsFor plan.steps (CommonEnv.ofEnv plan.env) (some value) = .ok steps ∧
        steps.length = plan.steps.length) ↔
      (plan.steps = [] ∨ Text.isWritable value = true) ∧ ∀ spec ∈ plan.steps, spec.IsDescribable) ∧
    ∃ request, planRequest plan false = .ok request ∧
      ((∀ value ∈ plan.config.values, Text.isWritable value = true) → (∀ spec ∈ plan.steps, spec.IsDescribable) →
        ∀ (σ : Type) (runner : Runner σ) (workplace : Workplace σ) (fault : Fault),
          (runner.run request workplace).ending = .crashed fault →
          (∃ call ∈ runner.calls request workplace, call.fault? = some fault) ∨
            Unpatched (runner.calls request workplace)) := by
  have isRead := load_read read tree path overrides plan loaded
  obtain ⟨request, setup, planned, made, counted⟩ := setup_planned plan false
  have commands : ∀ spec ∈ plan.steps, spec.command ≠ [] := by
    intro spec member
    obtain ⟨item, single⟩ := isRead.steps spec member
    exact step_of_datum_command item spec single
  refine ⟨⟨setup, made, counted⟩, fun value => steps_describable_iff plan.env plan.steps value commands, request, planned, ?_⟩
  intro writable describable σ runner workplace fault crashed
  have sound := read_sound plan isRead false request planned writable describable
  exact sound_crash sound _ _ (request_of_plan plan false request planned).2 (run_course runner request workplace) crashed

namespace Sample

def numbered : Datum :=
  .map [(.text "values", .list [.int 2]), (.text "target", .text "c.txt"), (.text "pattern", .text "X"),
    (.text "template", .text "X=\x7bv\x7d"),
    (.text "steps", .list [.map [(.text "command", .list [.text "a"]), (.text "description", .int 5)]])]

def loadOf (document : Datum) : Except Fault Plan :=
  Plan.loadWith (fun _ => .ok document) ⟨[(["p.yaml"], .file [] false)]⟩ (Path.ofText "p.yaml") []

end Sample

theorem loaded_plan_instantiates_iff_once :
    ∃ plan, Sample.loadOf Sample.document = .ok plan ∧ plan.config.values = [2] ∧ Text.isWritable 2 = true ∧
      (∀ spec ∈ plan.steps, spec.IsDescribable) ∧
      (∃ steps, stepsFor plan.steps (CommonEnv.ofEnv plan.env) (some 2) = .ok steps ∧ steps.length = plan.steps.length) ∧
      ∃ request, planRequest plan false = .ok request ∧ ∀ (workplace : Workplace Stage) (fault : Fault),
        (Sweep.Sample.runner.run request workplace).ending = .crashed fault →
        (∃ call ∈ Sweep.Sample.runner.calls request workplace, call.fault? = some fault) ∨
          Unpatched (Sweep.Sample.runner.calls request workplace) := by
  have writable : Text.isWritable 2 = true := by decide +kernel
  have known : ((Sample.loadOf Sample.document).toOption.any fun plan =>
      plan.config.values == [2] && plan.steps.all fun spec => !spec.description.isTruthy) = true := by
    decide +kernel
  cases loaded : Sample.loadOf Sample.document with
  | error fault =>
      rw [loaded] at known
      cases known
  | ok plan =>
      rw [loaded] at known
      obtain ⟨values, undescribed⟩ := Bool.and_eq_true_iff.mp known
      have single : plan.config.values = [2] := beq_iff_eq.mp values
      have describable : ∀ spec ∈ plan.steps, spec.IsDescribable := by
        intro spec member
        exact .inl (Bool.not_eq_true' _ ▸ List.all_eq_true.mp undescribed spec member)
      obtain ⟨_, each, request, planned, crash⟩ := loaded_plan_instantiates_iff _ _ _ _ plan loaded
      have writables : ∀ value ∈ plan.config.values, Text.isWritable value = true := by
        rw [single]
        exact List.forall_mem_singleton.mpr writable
      exact ⟨plan, rfl, single, writable, describable, (each 2).mpr ⟨.inr writable, describable⟩, request, planned,
        crash writables describable Stage Sweep.Sample.runner⟩

-- A plan is read whose commands cannot be made up for its value.
theorem numbered_plan_is_stuck :
    ∃ plan fault, Sample.loadOf Sample.numbered = .ok plan ∧ plan.config.values = [2] ∧
      stepsFor plan.steps (CommonEnv.ofEnv plan.env) (some 2) = .error fault := by
  have known : ((Sample.loadOf Sample.numbered).toOption.any fun plan => plan.config.values == [2] &&
      !(stepsFor plan.steps (CommonEnv.ofEnv plan.env) (some 2)).isOk) = true := by
    decide +kernel
  cases loaded : Sample.loadOf Sample.numbered with
  | error fault =>
      rw [loaded] at known
      cases known
  | ok plan =>
      rw [loaded] at known
      obtain ⟨values, stuck⟩ := Bool.and_eq_true_iff.mp known
      cases made : stepsFor plan.steps (CommonEnv.ofEnv plan.env) (some 2) with
      | ok steps =>
          rw [made] at stuck
          cases stuck
      | error fault => exact ⟨plan, fault, rfl, beq_iff_eq.mp values, made⟩

end ConstantSweep.CommandLine

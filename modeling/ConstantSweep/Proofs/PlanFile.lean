import ConstantSweep.Proofs.Overriding
import ConstantSweep.Proofs.Utf8
import ConstantSweep.Proofs.Variables

set_option autoImplicit false

namespace ConstantSweep.CommandLine

open ConstantSweep.Sweep
open ConstantSweep.Text

section Blame

variable {α β : Type}

-- What fails does so for another reason than that no command is given.
def BlamesNoCommand (result : Except Fault α) : Prop := result = .error .noCommand

theorem blameless_ok (value : α) : ¬ BlamesNoCommand (.ok value) := by
  intro blames
  cases blames

theorem blameless_error (fault : Fault) (blameless : ¬ BlamesNoCommand (.error fault : Except Fault α)) :
    fault ≠ .noCommand := by
  rintro rfl
  exact blameless rfl

theorem blameless_bind (first : Except Fault α) (next : α → Except Fault β) (here : ¬ BlamesNoCommand first)
    (later : ∀ middle, ¬ BlamesNoCommand (next middle)) : ¬ BlamesNoCommand (first >>= next) := by
  rw [BlamesNoCommand, bind_error_iff]
  rintro (blames | ⟨middle, _, blames⟩)
  · exact here blames
  · exact later middle blames

theorem blameless_map (change : α → β) (given : Except Fault α) (here : ¬ BlamesNoCommand given) :
    ¬ BlamesNoCommand (given.map change) := by
  cases given with
  | error fault =>
      intro blames
      exact blameless_error fault here (Except.error.inj blames)
  | ok value => exact blameless_ok (change value)

theorem blameless_map_m (make : α → Except Fault β) (items : List α) (each : ∀ item, ¬ BlamesNoCommand (make item)) :
    ¬ BlamesNoCommand (items.mapM make) := by
  rw [BlamesNoCommand, map_m_error_iff]
  rintro ⟨_, item, _, _, _, blames⟩
  exact each item blames

end Blame

theorem blameless_written (value : Datum) : ¬ BlamesNoCommand value.written := by
  intro blames
  rw [BlamesNoCommand, Datum.written] at blames
  split at blames
  · cases blames
  · cases blames

theorem blameless_elements (value : Datum) : ¬ BlamesNoCommand value.elements := by
  intro blames
  rw [BlamesNoCommand, Datum.elements] at blames
  split at blames <;> cases blames

theorem blameless_map_entries (value : Datum) : ¬ BlamesNoCommand value.mapEntries := by
  intro blames
  rw [BlamesNoCommand, Datum.mapEntries] at blames
  split at blames <;> cases blames

theorem blameless_make (command description : Datum) (cwd : Option Path) (env : Datum) :
    ¬ BlamesNoCommand (StepSpec.make command description cwd env) := by
  rw [StepSpec.make]
  split
  · apply blameless_bind _ _ (blameless_elements command)
    intro elements
    apply blameless_bind _ _ (blameless_map_m _ elements blameless_written)
    intro arguments
    apply blameless_bind _ _ (blameless_map_entries env)
    intro entries
    apply blameless_bind
    · apply blameless_map_m
      rintro ⟨name, value⟩
      apply blameless_bind _ _ (blameless_written name)
      intro first
      apply blameless_bind _ _ (blameless_written value)
      intro second
      exact blameless_ok (first, second)
    · intro converted
      exact blameless_ok _
  · intro blames
    cases blames

theorem blameless_setup (options : SweepOptions) (line : Text) : ¬ BlamesNoCommand (setupSpec options line) := by
  rw [setupSpec]
  apply blameless_bind
  · intro blames
    rw [BlamesNoCommand, splitCommand] at blames
    split at blames <;> cases blames
  · intro words
    exact blameless_make words .null options.cwd (.map [])

theorem blameless_values (definition : Text) : ¬ BlamesNoCommand (readValues definition) := by
  rw [readValues]
  split
  · intro blames
    cases blames
  · apply blameless_map_m
    intro part blames
    rw [BlamesNoCommand, readValue] at blames
    split at blames <;> cases blames

theorem blameless_overrides (items : List Text) : ¬ BlamesNoCommand (Env.ofOverrides items) := by
  rw [Env.ofOverrides]
  apply blameless_map
  apply blameless_map_m
  intro item blames
  rw [BlamesNoCommand, Env.splitOverride] at blames
  split at blames
  · split at blames <;> cases blames
  · cases blames

theorem blameless_extras (options : SweepOptions) : ¬ BlamesNoCommand (Extras.ofOptions options) := by
  rw [Extras.ofOptions]
  apply blameless_bind
  · cases options.values with
    | none => exact blameless_ok none
    | some definition => exact blameless_map some _ (blameless_values definition)
  · intro values
    apply blameless_bind _ _ (blameless_overrides options.env)
    intro env
    split
    · apply blameless_bind _ _ (blameless_ok [])
      intro steps
      apply blameless_bind _ _ (blameless_map_m _ options.setup (blameless_setup options))
      intro setup
      exact blameless_ok _
    · apply blameless_bind
      · apply blameless_map
        exact blameless_make _ _ options.cwd (.map [])
      · intro steps
        apply blameless_bind _ _ (blameless_map_m _ options.setup (blameless_setup options))
        intro setup
        exact blameless_ok _

theorem blameless_integer (value : Datum) : ¬ BlamesNoCommand value.toInteger := by
  have read (result : Except IntegerFault Int) : ¬ BlamesNoCommand (result.mapError Fault.integer) := by
    intro blames
    cases result <;> cases blames
  unfold Datum.toInteger
  split
  · exact blameless_ok 1
  · exact blameless_ok 0
  · exact blameless_ok _
  · split
    · exact blameless_ok _
    · intro blames
      split at blames <;> cases blames
  · exact read _
  · exact read _
  · intro blames
    cases blames

theorem blameless_config (values : Datum) (target : Option Path) (pattern : Option Text) (template : Datum) :
    ¬ BlamesNoCommand (SweepConfig.make values target pattern template) := by
  rw [SweepConfig.make]
  apply blameless_bind
  · rw [SweepConfig.readValues]
    split
    · apply blameless_bind _ _ (blameless_elements values)
      intro elements
      exact blameless_map_m _ elements blameless_integer
    · intro blames
      cases blames
  · intro integers
    split
    · apply blameless_bind
      · intro blames
        rw [BlamesNoCommand, SweepConfig.checkPattern] at blames
        split at blames <;> cases blames
      · intro checked
        exact blameless_ok _
    · intro blames
      cases blames

-- Options that name a whole configuration. Their target is a path that was written down.
structure IsComplete (options : SweepOptions) (values file pattern template : Text) : Prop where
  values : options.values = some values
  target : options.target = some (Path.ofText file)
  pattern : options.pattern = some pattern
  template : options.template = some template

def withoutPlan (options : SweepOptions) : SweepOptions := { options with plan := none }

-- The plan of options that stand alone, with the configuration that they name.
def alone (options : SweepOptions) (extras : Extras) (config : SweepConfig) : Plan :=
  ⟨config, extras.steps, extras.setup, extras.env, chosenPolicy options .failFast, options.restore⟩

section Complete

variable (options : SweepOptions) (values file pattern template : Text)
  (complete : IsComplete options values file pattern template)

include complete

theorem complete_values (extras : Extras) (made : Extras.ofOptions options = .ok extras) :
    ∃ integers, readValues values = .ok integers ∧ extras.values = some integers := by
  have read := (of_options_read options extras made).values
  rw [complete.values] at read
  obtain ⟨integers, readable, same⟩ := map_ok read
  exact ⟨integers, readable, same.symm⟩

theorem complete_overrides (integers : List Int) :
    overrides options (some integers) = Plan.configEntries integers (Path.ofText file).text pattern template := by
  rw [overrides, complete.target, complete.pattern, complete.template]
  rfl

theorem complete_alone (extras : Extras) (integers : List Int) (read : extras.values = some integers) :
    planOfOptions options extras =
      (Plan.configOf integers (Path.ofText file).text pattern template).map (alone options extras) := by
  have missing : missingOptions options = [] := by
    rw [missingOptions, complete.values, complete.target, complete.pattern, complete.template]
    rfl
  have target : Path.ofText (Path.ofText file).text = Path.ofText file :=
    Path.of_text_text (Path.ofText file) (Path.of_text_normal file)
  rw [planOfOptions, missing, read, complete.target, complete.pattern, complete.template, Plan.configOf, target]
  rfl

end Complete

theorem extras_steps (options : SweepOptions) (extras : Extras) (made : Extras.ofOptions options = .ok extras) :
    extras.steps = [] ↔ options.command = [] := by
  rw [(of_options_read options extras made).steps, ownSteps]
  split
  · rename_i empty
    exact iff_of_true rfl empty
  · rename_i given
    exact iff_of_false (List.cons_ne_nil _ _) given

theorem require_steps_error (plan : Plan) (fault : Fault) :
    requireSteps plan = .error fault ↔ fault = .noCommand ∧ plan.steps = [] := by
  rw [requireSteps]
  split
  · rename_i empty
    rw [List.isEmpty_iff] at empty
    constructor
    · intro same
      exact ⟨(Except.error.inj same).symm, empty⟩
    · rintro ⟨rfl, _⟩
      rfl
  · rename_i given
    constructor
    · intro same
      cases same
    · rintro ⟨_, empty⟩
      exact absurd (List.isEmpty_iff.mpr empty) given

section Files

-- Any reader will do that makes a document of the text of a file, so also the program's own, which is for YAML.
variable (load : List Char → Except Fault Datum) (tree : FileTree)

theorem load_document (path : Path) (given : List (Text × Datum)) (document : Datum)
    (read : Plan.readDocument tree path load = .ok document) :
    Plan.loadWith load tree path given = Plan.ofDatum path given document := by
  have found : ∃ entry, tree.find path = .ok entry := by
    rw [Plan.readDocument] at read
    cases there : tree.find path with
    | error fault =>
        rw [FileTree.read, there] at read
        cases read
    | ok entry => exact ⟨entry, rfl⟩
  obtain ⟨entry, there⟩ := found
  rw [Plan.loadWith, there, read]
  rfl

-- What the document supplies beside the configuration, with the given entries in the places of its own.
def Supplied (given : List (Text × Datum)) (document : Datum) (supply : Plan.Supply) : Prop :=
  ∃ entries, Plan.entriesOf given document = some entries ∧ Plan.Supplies entries supply

theorem load_supplied (path : Path) (integers : List Int) (target pattern template : Text) (document : Datum)
    (supply : Plan.Supply) (read : Plan.readDocument tree path load = .ok document)
    (supplied : Supplied (Plan.configEntries integers target pattern template) document supply) :
    Plan.loadWith load tree path (Plan.configEntries integers target pattern template) =
      (Plan.configOf integers target pattern template).map supply.plan := by
  obtain ⟨entries, listed, supplies⟩ := supplied
  obtain ⟨all, loaded, found⟩ := Plan.overridden_document path _ document entries
    (Plan.config_entries_present integers target pattern template)
    (Plan.config_entries_closed integers target pattern template) listed
  rw [load_document load tree path _ document read, loaded]
  exact Plan.configured_entries integers target pattern template path all entries supply found supplies

end Files

-- A plan that extends what a file supplies by what the options ask for.
structure Extends (options : SweepOptions) (supply : Plan.Supply) (config : SweepConfig) (plan : Plan) : Prop where
  config : plan.config = config
  steps : plan.steps = supply.steps ++ ownSteps options
  setup : ∃ own, List.Forall₂ (IsSetup options) options.setup own ∧ plan.setup = supply.setup ++ own
  env : plan.env.Overlays supply.env options.env
  policy : plan.policy = .goOn ↔ options.goesOn = true ∨ supply.policy = .goOn
  restore : plan.restore = true ↔ options.restore = true ∨ supply.restore = true

theorem extend_extends (options : SweepOptions) (extras : Extras) (supply : Plan.Supply) (config : SweepConfig)
    (read : extras.IsRead options) (distinct : supply.env.Distinct) :
    Extends options supply config (extend options extras (supply.plan config)) := by
  have policy : chosenPolicy options supply.policy = .goOn ↔ options.goesOn = true ∨ supply.policy = .goOn := by
    rw [chosenPolicy]
    cases options.goesOn with
    | true => simp
    | false => simp
  have restore : (supply.restore || options.restore) = true ↔ options.restore = true ∨ supply.restore = true := by
    rw [Bool.or_eq_true, or_comm]
  have overlay := Env.overrides_overlay options.env extras.env read.env
  exact ⟨rfl, congrArg (supply.steps ++ ·) read.steps, ⟨extras.setup, read.setup, rfl⟩,
    Env.update_overlays supply.env extras.env options.env distinct overlay, policy, restore⟩

theorem extend_nothing (options : SweepOptions) (extras : Extras) (made : Extras.ofOptions options = .ok extras)
    (config : SweepConfig) : extend options extras (Plan.nothing.plan config) = alone options extras config := by
  have distinct := overrides_distinct options.env extras.env (of_options_read options extras made).env
  have env : Env.update [] extras.env = extras.env := Env.update_fresh [] extras.env distinct
  have restore : (false || options.restore) = options.restore := Bool.false_or options.restore
  rw [extend, Plan.Supply.plan, Plan.nothing, alone]
  dsimp only
  rw [env, restore, List.nil_append, List.nil_append]

section Agreement

variable (load : List Char → Except Fault Datum) (tree : FileTree) (options : SweepOptions) (path : Path)
  (document : Datum) (supply : Plan.Supply) (values file pattern template : Text)
  (planned : options.plan = some path)
  (complete : IsComplete options values file pattern template)
  (read : Plan.readDocument tree path load = .ok document)
  (supplied : ∀ integers, readValues values = .ok integers →
    Supplied (Plan.configEntries integers (Path.ofText file).text pattern template) document supply)

include planned complete read supplied

theorem both_plans (extras : Extras) (made : Extras.ofOptions options = .ok extras) :
    ∃ config, ¬ BlamesNoCommand config ∧ planOfOptions options extras = config.map (alone options extras) ∧
      buildPlanWith (Plan.loadWith load tree) options =
        config.bind (fun config => requireSteps (extend options extras (supply.plan config))) ∧
      buildPlanWith (Plan.loadWith load tree) (withoutPlan options) =
        config.bind (fun config => requireSteps (alone options extras config)) := by
  obtain ⟨integers, readable, given⟩ := complete_values options values file pattern template complete extras made
  have single := complete_alone options values file pattern template complete extras integers given
  have loaded := load_supplied load tree path integers (Path.ofText file).text pattern template document supply read
    (supplied integers readable)
  have bare : Extras.ofOptions (withoutPlan options) = .ok extras := made
  have bareSingle : planOfOptions (withoutPlan options) extras = planOfOptions options extras := rfl
  refine ⟨_, blameless_config _ _ _ _, single, ?_, ?_⟩
  · rw [buildPlanWith, made, planned]
    change (((Plan.loadWith load tree path (overrides options extras.values)).map (extend options extras)).bind
      requireSteps) = _
    rw [given, complete_overrides options values file pattern template complete, loaded, Plan.configOf]
    cases SweepConfig.make _ _ _ _ with
    | error fault => rfl
    | ok config => rfl
  · rw [buildPlanWith, bare]
    change ((planOfOptions (withoutPlan options) extras).bind requireSteps) = _
    rw [bareSingle, single, Plan.configOf]
    cases SweepConfig.make _ _ _ _ with
    | error fault => rfl
    | ok config => rfl

theorem plan_fault_iff (fault : Fault) :
    buildPlanWith (Plan.loadWith load tree) options = .error fault ↔
      buildPlanWith (Plan.loadWith load tree) (withoutPlan options) = .error fault ∧
        (fault = .noCommand → supply.steps = []) := by
  cases made : Extras.ofOptions options with
  | error first =>
      have blameless := blameless_extras options
      have bare : Extras.ofOptions (withoutPlan options) = .error first := made
      rw [made] at blameless
      rw [buildPlanWith, buildPlanWith, bare, made]
      constructor
      · intro failed
        refine ⟨failed, fun blames => ?_⟩
        exact absurd ((Except.error.inj failed).trans blames) (blameless_error first blameless)
      · exact And.left
  | ok extras =>
      obtain ⟨config, blameless, _, extended, single⟩ := both_plans load tree options path document supply values file
        pattern template planned complete read supplied extras made
      rw [extended, single]
      cases config with
      | error first =>
          constructor
          · intro failed
            refine ⟨failed, fun blames => ?_⟩
            exact absurd ((Except.error.inj failed).trans blames) (blameless_error first blameless)
          · exact And.left
      | ok config =>
          change requireSteps _ = _ ↔ requireSteps _ = _ ∧ _
          rw [require_steps_error, require_steps_error]
          have steps : (extend options extras (supply.plan config)).steps = supply.steps ++ extras.steps := rfl
          have own : (alone options extras config).steps = extras.steps := rfl
          rw [steps, own, List.append_eq_nil_iff]
          constructor
          · rintro ⟨rfl, none, empty⟩
            exact ⟨⟨rfl, empty⟩, fun _ => none⟩
          · rintro ⟨⟨rfl, empty⟩, none⟩
            exact ⟨rfl, none rfl, empty⟩

theorem commandless_fault (commandless : options.command = []) :
    ∃ fault, buildPlanWith (Plan.loadWith load tree) (withoutPlan options) = .error fault := by
  cases made : Extras.ofOptions options with
  | error first =>
      have bare : Extras.ofOptions (withoutPlan options) = .error first := made
      exact ⟨first, by rw [buildPlanWith, bare]; rfl⟩
  | ok extras =>
      obtain ⟨config, _, _, _, single⟩ := both_plans load tree options path document supply values file pattern template
        planned complete read supplied extras made
      rw [single]
      cases config with
      | error first => exact ⟨first, rfl⟩
      | ok config =>
          have empty := (extras_steps options extras made).mpr commandless
          exact ⟨.noCommand, (require_steps_error _ _).mpr ⟨rfl, empty⟩⟩

theorem lacking_commandless
    (fails : buildPlanWith (Plan.loadWith load tree) (withoutPlan options) = .error .noCommand) :
    options.command = [] := by
  cases made : Extras.ofOptions options with
  | error first =>
      have bare : Extras.ofOptions (withoutPlan options) = .error first := made
      have blameless := blameless_extras options
      rw [made] at blameless
      rw [buildPlanWith, bare] at fails
      exact absurd (Except.error.inj fails) (blameless_error first blameless)
  | ok extras =>
      obtain ⟨config, blameless, _, _, single⟩ := both_plans load tree options path document supply values file pattern
        template planned complete read supplied extras made
      rw [single] at fails
      cases config with
      | error first => exact absurd (Except.error.inj fails) (blameless_error first blameless)
      | ok config =>
          obtain ⟨_, empty⟩ := (require_steps_error _ _).mp fails
          exact (extras_steps options extras made).mp empty

theorem built_plan_extends (plan : Plan) (built : buildPlanWith (Plan.loadWith load tree) options = .ok plan) :
    ∃ extras single, Extras.ofOptions options = .ok extras ∧ planOfOptions options extras = .ok single ∧
      buildPlanWith (Plan.loadWith load tree) (withoutPlan options) = requireSteps single ∧
      Extends options supply single.config plan := by
  cases made : Extras.ofOptions options with
  | error first =>
      rw [buildPlanWith, made] at built
      cases built
  | ok extras =>
      obtain ⟨config, _, single, extended, bare⟩ := both_plans load tree options path document supply values file
        pattern template planned complete read supplied extras made
      rw [extended] at built
      cases config with
      | error first => cases built
      | ok config =>
          have whole := required_plan _ plan built
          refine ⟨extras, alone options extras config, rfl, single, bare, ?_⟩
          obtain ⟨integers, readable, _⟩ := complete_values options values file pattern template complete extras made
          obtain ⟨entries, _, supplies⟩ := supplied integers readable
          rw [← whole]
          exact extend_extends options extras supply config (of_options_read options extras made)
            (plan_variables_distinct _ supply.env supplies.env)

theorem empty_plan_file (empty : document = .null ∨ document = .map []) :
    buildPlanWith (Plan.loadWith load tree) options =
      buildPlanWith (Plan.loadWith load tree) (withoutPlan options) := by
  cases made : Extras.ofOptions options with
  | error first =>
      have bare : Extras.ofOptions (withoutPlan options) = .error first := made
      rw [buildPlanWith, buildPlanWith, bare, made]
      rfl
  | ok extras =>
      obtain ⟨config, _, _, extended, bare⟩ := both_plans load tree options path document supply values file pattern
        template planned complete read supplied extras made
      obtain ⟨integers, readable, _⟩ := complete_values options values file pattern template complete extras made
      obtain ⟨entries, listed, supplies⟩ := supplied integers readable
      have none : entries = [] := by
        rcases empty with rfl | rfl
        · exact (Option.some.inj listed).symm
        · exact (Option.some.inj listed).symm
      subst none
      rw [extended, bare, Plan.empty_supplies supply supplies]
      congr 1
      funext config
      rw [extend_nothing options extras made config]

theorem plan_file_extends_options :
    ((∃ fault, buildPlanWith (Plan.loadWith load tree) options = .error fault) ↔
      (∃ fault, buildPlanWith (Plan.loadWith load tree) (withoutPlan options) = .error fault ∧ fault ≠ .noCommand) ∨
        (supply.steps = [] ∧ options.command = [])) ∧
    (∀ fault, buildPlanWith (Plan.loadWith load tree) options = .error fault ↔
      buildPlanWith (Plan.loadWith load tree) (withoutPlan options) = .error fault ∧
        (fault = .noCommand → supply.steps = [])) ∧
    (∀ plan, buildPlanWith (Plan.loadWith load tree) options = .ok plan →
      ∃ extras single, Extras.ofOptions options = .ok extras ∧ planOfOptions options extras = .ok single ∧
        buildPlanWith (Plan.loadWith load tree) (withoutPlan options) = requireSteps single ∧
        Extends options supply single.config plan) ∧
    (document = .null ∨ document = .map [] →
      buildPlanWith (Plan.loadWith load tree) options =
        buildPlanWith (Plan.loadWith load tree) (withoutPlan options)) := by
  have same := plan_fault_iff load tree options path document supply values file pattern template planned complete read
    supplied
  have lacks := commandless_fault load tree options path document supply values file pattern template planned complete
    read supplied
  have commandless := lacking_commandless load tree options path document supply values file pattern template planned
    complete read supplied
  have extending := built_plan_extends load tree options path document supply values file pattern template planned
    complete read supplied
  have nothing := empty_plan_file load tree options path document supply values file pattern template planned complete
    read supplied
  refine ⟨⟨?_, ?_⟩, same, extending, nothing⟩
  · rintro ⟨fault, failed⟩
    obtain ⟨bare, none⟩ := (same fault).mp failed
    by_cases blames : fault = .noCommand
    · subst blames
      exact .inr ⟨none rfl, commandless bare⟩
    · exact .inl ⟨fault, bare, blames⟩
  · rintro (⟨fault, bare, other⟩ | ⟨none, empty⟩)
    · exact ⟨fault, (same fault).mpr ⟨bare, fun blames => absurd blames other⟩⟩
    · obtain ⟨fault, bare⟩ := lacks empty
      exact ⟨fault, (same fault).mpr ⟨bare, fun _ => none⟩⟩

end Agreement

namespace Sample

-- The file of a plan that goes on and has a command and values of its own, the document that it is, and a command line
-- that names a configuration and one more command.
def sheet : String := "values: [9]\npolicy: continue\nenv:\n  A: a\n  B: b\nsteps: [b]\n"

def shared : Datum :=
  .map [(.text "values", .list [.int 9]), (.text "policy", .text "continue"),
    (.text "env", .map [(.text "A", .text "a"), (.text "B", .text "b")]), (.text "steps", .list [.text "b"])]

def sheetPath : Path := Path.ofText "p.yaml"

def files : FileTree := ⟨[(["p.yaml"], .file (Utf8.encode sheet.toList) false)]⟩

def sharing : SweepOptions :=
  ⟨some sheetPath, some "2", some (Path.ofText "c.txt"), some "X", some "X", ["a"], ["B=o"], none, none, [],
    false, false, false, none⟩

def added : Plan.Supply := ⟨[⟨["b"], .null, none, []⟩], [], [("A", "a"), ("B", "b")], .goOn, false⟩

theorem shared_read : Plan.readDocument files sheetPath (fun _ => .ok shared) = .ok shared := by
  have stored : files.read sheetPath = .ok (Utf8.encode sheet.toList) := rfl
  rw [Plan.readDocument, stored]
  dsimp only
  rw [Utf8.decode_encode]

theorem shared_built :
    buildPlanWith (Plan.loadWith (fun _ => .ok shared) files) sharing =
      buildPlanWith (fun path given => Plan.ofDatum path given shared) sharing := by
  have loaded (given : List (Text × Datum)) := load_document (fun _ => .ok shared) files sheetPath given shared shared_read
  have planned : sharing.plan = some sheetPath := rfl
  simp only [buildPlanWith, planned, loaded]

theorem added_supplied (given : List (Text × Datum)) : Supplied given shared added :=
  ⟨_, rfl, ⟨rfl, rfl, rfl, rfl, rfl⟩⟩

end Sample

theorem plan_file_extends_options_once :
    ∃ (plan single : Plan),
      buildPlanWith (Plan.loadWith (fun _ => .ok Sample.shared) Sample.files) Sample.sharing = .ok plan ∧
      plan.config.values = [2] ∧ plan.steps.map (·.command) = ([["b"], ["a"]] : List (List Text)) ∧
      plan.env = ([("A", "a"), ("B", "o")] : Env) ∧ Extends Sample.sharing Sample.added single.config plan := by
  have known : ((buildPlanWith (fun path given => Plan.ofDatum path given Sample.shared) Sample.sharing).toOption.any
      fun plan => plan.config.values == [2] &&
        (plan.steps.map (·.command) == ([["b"], ["a"]] : List (List Text)) &&
          plan.env == ([("A", "a"), ("B", "o")] : Env))) = true := by
    decide +kernel
  rw [← Sample.shared_built] at known
  obtain ⟨plan, found, shown⟩ := (Option.any_eq_true _ _).mp known
  rw [Bool.and_eq_true, Bool.and_eq_true, beq_iff_eq, beq_iff_eq, beq_iff_eq] at shown
  obtain ⟨values, commands, env⟩ := shown
  have built := to_option_ok found
  obtain ⟨_, single, _, _, _, extended⟩ := (plan_file_extends_options (fun _ => .ok Sample.shared) Sample.files
    Sample.sharing Sample.sheetPath Sample.shared Sample.added "2" "c.txt" "X" "X" rfl ⟨rfl, rfl, rfl, rfl⟩
    Sample.shared_read (fun integers _ => Sample.added_supplied _)).2.2.1 plan built
  exact ⟨plan, single, built, values, commands, env, extended⟩

end ConstantSweep.CommandLine

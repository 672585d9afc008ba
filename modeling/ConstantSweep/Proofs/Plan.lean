import ConstantSweep.CommandLine.Build
import ConstantSweep.Proofs.Completion
import ConstantSweep.Proofs.Env

set_option autoImplicit false

namespace ConstantSweep.Sweep

theorem list_read_values (items : List Datum) (values : List Int)
    (read : SweepConfig.readValues (.list items) = .ok values) : values ≠ [] := by
  rw [SweepConfig.readValues] at read
  split at read
  · rename_i given
    obtain ⟨elements, listed, all⟩ := bind_ok read
    cases listed
    refine map_m_nonempty Datum.toInteger items values all ?_
    rintro rfl
    cases given
  · cases read

theorem config_values (given : Datum) (target : Option Path) (pattern : Option Text) (template : Datum)
    (config : SweepConfig) (made : SweepConfig.make given target pattern template = .ok config) :
    SweepConfig.readValues given = .ok config.values := by
  obtain ⟨values, read, made⟩ := bind_ok made
  rw [read]
  split at made
  · obtain ⟨_, _, made⟩ := bind_ok made
    cases made
    rfl
  · cases made

theorem config_template (given : Datum) (target : Option Path) (pattern : Option Text) (template : Datum)
    (config : SweepConfig) (made : SweepConfig.make given target pattern template = .ok config) :
    config.template = template := by
  obtain ⟨values, _, made⟩ := bind_ok made
  split at made
  · obtain ⟨_, _, made⟩ := bind_ok made
    cases made
    rfl
  · cases made

structure Plan.IsProper (plan : Plan) : Prop where
  env : plan.env.Distinct
  steps : ∀ spec ∈ plan.steps, spec.env.Distinct
  setup : ∀ spec ∈ plan.setup, spec.env.Distinct

theorem make_distinct (command description : Datum) (cwd : Option Path) (env : Datum) (spec : StepSpec)
    (made : StepSpec.make command description cwd env = .ok spec) : spec.env.Distinct := by
  rw [StepSpec.make] at made
  split at made
  · obtain ⟨elements, _, made⟩ := bind_ok made
    obtain ⟨arguments, _, made⟩ := bind_ok made
    obtain ⟨entries, _, made⟩ := bind_ok made
    obtain ⟨converted, _, made⟩ := bind_ok made
    cases made
    exact Env.of_entries_distinct converted
  · cases made

theorem make_command (arguments : List Datum) (description : Datum) (cwd : Option Path) (env : Datum) (spec : StepSpec)
    (made : StepSpec.make (.list arguments) description cwd env = .ok spec) : spec.command ≠ [] := by
  rw [StepSpec.make] at made
  split at made
  · rename_i given
    obtain ⟨elements, listed, made⟩ := bind_ok made
    cases listed
    obtain ⟨written, all, made⟩ := bind_ok made
    obtain ⟨entries, _, made⟩ := bind_ok made
    obtain ⟨converted, _, made⟩ := bind_ok made
    cases made
    refine map_m_nonempty Datum.written arguments written all ?_
    rintro rfl
    cases given
  · cases made

theorem step_of_datum_made (value : Datum) (spec : StepSpec) (made : stepOfDatum value = .ok spec) :
    ∃ arguments description cwd env, StepSpec.make (.list arguments) description cwd env = .ok spec := by
  rw [stepOfDatum] at made
  split at made
  · obtain ⟨command, read, made⟩ := bind_ok made
    rw [splitCommand] at read
    split at read <;> cases read
    exact ⟨_, _, _, _, made⟩
  · dsimp only at made
    -- Whatever the command, its words and the directory are read from, the variables are read last.
    split at made
    all_goals
      obtain ⟨command, _, made⟩ := bind_ok made
      split at made
    all_goals
      obtain ⟨arguments, _, made⟩ := bind_ok made
      repeat' split at made
    all_goals
      obtain ⟨directory, _, made⟩ := bind_ok made
      obtain ⟨own, _, made⟩ := bind_ok made
      exact ⟨_, _, _, _, made⟩
  · cases made

theorem step_of_datum_distinct (value : Datum) (spec : StepSpec) (made : stepOfDatum value = .ok spec) :
    spec.env.Distinct := by
  obtain ⟨arguments, description, cwd, env, made⟩ := step_of_datum_made value spec made
  exact make_distinct _ _ _ _ spec made

theorem step_of_datum_command (value : Datum) (spec : StepSpec) (made : stepOfDatum value = .ok spec) :
    spec.command ≠ [] := by
  obtain ⟨arguments, description, cwd, env, made⟩ := step_of_datum_made value spec made
  exact make_command arguments description cwd env spec made

theorem plan_variables_distinct (value : Datum) (env : Env) (made : planVariables value = .ok env) : env.Distinct := by
  rw [planVariables] at made
  split at made
  · obtain ⟨entries, _, made⟩ := bind_ok made
    obtain ⟨converted, _, made⟩ := bind_ok made
    cases made
    exact Env.of_entries_distinct converted
  · cases made
    exact List.nodup_nil

structure Plan.IsRead (plan : Plan) : Prop where
  values : plan.config.values ≠ []
  template : ∃ text, plan.config.template = .text text
  env : ∃ value, planVariables value = .ok plan.env
  steps : ∀ spec ∈ plan.steps, ∃ item, stepOfDatum item = .ok spec
  setup : ∀ spec ∈ plan.setup, ∃ item, stepOfDatum item = .ok spec

theorem of_entries_read (path : Path) (overridden : Bool) (entries : List (Datum × Datum)) (plan : Plan)
    (made : Plan.ofEntries path overridden entries = .ok plan) : plan.IsRead := by
  unfold Plan.ofEntries at made
  dsimp only at made
  split at made
  · cases made
  · obtain ⟨target, _, made⟩ := bind_ok made
    obtain ⟨values, _, made⟩ := bind_ok made
    obtain ⟨pattern, _, made⟩ := bind_ok made
    obtain ⟨template, _, made⟩ := bind_ok made
    obtain ⟨config, configured, made⟩ := bind_ok made
    have valued := list_read_values values config.values (config_values _ _ _ _ config configured)
    have filling := config_template _ _ _ _ config configured
    obtain ⟨stepItems, _, made⟩ := bind_ok made
    obtain ⟨steps, stepsMade, made⟩ := bind_ok made
    obtain ⟨setupItems, _, made⟩ := bind_ok made
    obtain ⟨setup, setupMade, made⟩ := bind_ok made
    obtain ⟨env, envMade, made⟩ := bind_ok made
    obtain ⟨policy, _, made⟩ := bind_ok made
    cases made
    exact ⟨valued, ⟨_, filling⟩, ⟨_, envMade⟩, map_m_each stepOfDatum stepItems steps stepsMade _ fun item _ single => ⟨item, single⟩,
      map_m_each stepOfDatum setupItems setup setupMade _ fun item _ single => ⟨item, single⟩⟩

theorem load_read (read : List Char → Except Fault Datum) (tree : FileTree) (path : Path)
    (overrides : List (Text × Datum)) (plan : Plan) (loaded : Plan.loadWith read tree path overrides = .ok plan) :
    plan.IsRead := by
  rw [Plan.loadWith] at loaded
  split at loaded
  · obtain ⟨document, _, made⟩ := bind_ok loaded
    rw [Plan.ofDatum] at made
    split at made
    · exact of_entries_read path _ _ plan made
    · exact of_entries_read path _ _ plan made
    · cases made
  · cases loaded
  · cases loaded

theorem load_plan (read : List Char → Except Fault Datum) (tree : FileTree) (path : Path)
    (overrides : List (Text × Datum)) (plan : Plan) (loaded : Plan.loadWith read tree path overrides = .ok plan) :
    plan.config.values ≠ [] ∧ plan.IsProper := by
  obtain ⟨values, _, ⟨value, env⟩, steps, setup⟩ := load_read read tree path overrides plan loaded
  refine ⟨values, plan_variables_distinct value plan.env env, ?_, ?_⟩
  · intro spec member
    obtain ⟨item, made⟩ := steps spec member
    exact step_of_datum_distinct item spec made
  · intro spec member
    obtain ⟨item, made⟩ := setup spec member
    exact step_of_datum_distinct item spec made

end ConstantSweep.Sweep

namespace ConstantSweep.CommandLine

open ConstantSweep.Sweep
open ConstantSweep.Text

theorem make_words (words : List Text) (description : Datum) (cwd : Option Path) (spec : StepSpec)
    (made : StepSpec.make (.list (words.map .text)) description cwd (.map []) = .ok spec) :
    spec = ⟨words, description, cwd, []⟩ := by
  have written : (words.map Datum.text).mapM Datum.written = .ok words := by
    rw [map_m_iff, List.forall₂_map_left_iff, List.forall₂_same]
    exact fun _ _ => rfl
  rw [StepSpec.make] at made
  split at made
  · change (do
      let arguments ← (words.map Datum.text).mapM Datum.written
      return ⟨arguments, description, cwd, []⟩ : Except Fault StepSpec) = .ok spec at made
    rw [written] at made
    cases made
    rfl
  · cases made

def ownSteps (options : SweepOptions) : List StepSpec :=
  if options.command = [] then []
  else [⟨options.command, textOrNull options.description, options.cwd, []⟩]

def IsSetup (options : SweepOptions) (line : Text) (spec : StepSpec) : Prop :=
  ∃ command, words line = .ok command ∧ spec = ⟨command, .null, options.cwd, []⟩

structure Extras.IsRead (extras : Extras) (options : SweepOptions) : Prop where
  values : options.values.mapM readValues = .ok extras.values
  env : Env.ofOverrides options.env = .ok extras.env
  steps : extras.steps = ownSteps options
  setup : List.Forall₂ (IsSetup options) options.setup extras.setup

theorem setup_read (options : SweepOptions) (setup : List StepSpec)
    (made : options.setup.mapM (setupSpec options) = .ok setup) :
    List.Forall₂ (IsSetup options) options.setup setup := by
  rw [map_m_iff] at made
  refine made.imp fun line spec single => ?_
  obtain ⟨command, split, single⟩ := bind_ok single
  rw [splitCommand] at split
  cases read : words line with
  | error fault =>
      rw [read] at split
      cases split
  | ok parts =>
      rw [read] at split
      cases split
      exact ⟨parts, read, make_words parts .null options.cwd spec single⟩

theorem of_options_read (options : SweepOptions) (extras : Extras) (made : Extras.ofOptions options = .ok extras) :
    extras.IsRead options := by
  obtain ⟨values, valued, made⟩ := bind_ok made
  obtain ⟨env, overridden, made⟩ := bind_ok made
  split at made
  · rename_i empty
    obtain ⟨steps, none, made⟩ := bind_ok made
    obtain ⟨setup, lines, made⟩ := bind_ok made
    cases none
    cases made
    refine ⟨valued, overridden, ?_, setup_read options _ lines⟩
    rw [ownSteps, if_pos (List.isEmpty_iff.mp empty)]
  · rename_i given
    obtain ⟨steps, single, made⟩ := bind_ok made
    obtain ⟨setup, lines, made⟩ := bind_ok made
    cases made
    refine ⟨valued, overridden, ?_, setup_read options _ lines⟩
    obtain ⟨spec, one, rfl⟩ := map_ok single
    rw [ownSteps, if_neg fun empty => given (List.isEmpty_iff.mpr empty),
      make_words options.command _ options.cwd spec one]

theorem own_steps_distinct (options : SweepOptions) : ∀ spec ∈ ownSteps options, spec.env.Distinct := by
  intro spec member
  rw [ownSteps] at member
  split at member
  · cases member
  · rw [List.mem_singleton.mp member]
    exact List.nodup_nil

theorem setup_distinct (options : SweepOptions) (setup : List StepSpec)
    (read : List.Forall₂ (IsSetup options) options.setup setup) : ∀ spec ∈ setup, spec.env.Distinct := by
  intro spec member
  obtain ⟨line, command, _, rfl⟩ := related_left read.flip spec member
  exact List.nodup_nil

theorem options_values (options : SweepOptions) (extras : Extras) (plan : Plan)
    (made : planOfOptions options extras = .ok plan) : plan.config.values ≠ [] := by
  rw [planOfOptions] at made
  split at made
  · obtain ⟨config, configured, made⟩ := bind_ok made
    have read := config_values _ _ _ _ config configured
    cases made
    unfold valuesOrNull at read
    split at read
    · cases read
    · exact list_read_values _ config.values read
  · cases made

theorem options_extras (options : SweepOptions) (extras : Extras) (plan : Plan)
    (made : planOfOptions options extras = .ok plan) :
    plan.env = extras.env ∧ plan.steps = extras.steps ∧ plan.setup = extras.setup := by
  rw [planOfOptions] at made
  split at made
  · obtain ⟨config, _, made⟩ := bind_ok made
    cases made
    exact ⟨rfl, rfl, rfl⟩
  · cases made

theorem required_plan (made plan : Plan) (built : requireSteps made = .ok plan) : made = plan := by
  rw [requireSteps] at built
  split at built
  · cases built
  · exact Except.ok.inj built

-- A plan comes of the options alone, or extends one that they name.
inductive IsBuilt (load : Path → List (Text × Datum) → Except Fault Plan) (options : SweepOptions) (extras : Extras)
    (plan : Plan) : Prop where
  | ofOptions : options.plan = none → planOfOptions options extras = .ok plan → IsBuilt load options extras plan
  | extending (path : Path) (loaded : Plan) : options.plan = some path →
      load path (overrides options extras.values) = .ok loaded → plan = extend options extras loaded →
      IsBuilt load options extras plan

theorem build_is_built (load : Path → List (Text × Datum) → Except Fault Plan) (options : SweepOptions) (plan : Plan)
    (built : buildPlanWith load options = .ok plan) :
    ∃ extras, Extras.ofOptions options = .ok extras ∧ IsBuilt load options extras plan := by
  rw [buildPlanWith] at built
  obtain ⟨extras, extended, built⟩ := bind_ok built
  refine ⟨extras, extended, ?_⟩
  cases given : options.plan with
  | none =>
      rw [given] at built
      obtain ⟨made, planned, built⟩ := bind_ok built
      rw [← required_plan made plan built]
      exact .ofOptions given planned
  | some path =>
      rw [given] at built
      obtain ⟨made, planned, built⟩ := bind_ok built
      rw [← required_plan made plan built]
      obtain ⟨loaded, found, extended⟩ := map_ok planned
      exact .extending path loaded given found extended.symm

theorem built_values (read : List Char → Except Fault Datum) (tree : FileTree) (options : SweepOptions) (plan : Plan)
    (built : buildPlanWith (Plan.loadWith read tree) options = .ok plan) : plan.config.values ≠ [] := by
  obtain ⟨extras, _, comes⟩ := build_is_built _ options plan built
  cases comes with
  | ofOptions _ planned => exact options_values options extras plan planned
  | extending path loaded _ found extended =>
      rw [extended]
      exact (load_plan read tree path _ loaded found).1

theorem appended_distinct (first second : List StepSpec) (firstDistinct : ∀ spec ∈ first, spec.env.Distinct)
    (secondDistinct : ∀ spec ∈ second, spec.env.Distinct) : ∀ spec ∈ first ++ second, spec.env.Distinct := by
  intro spec member
  rcases List.mem_append.mp member with member | member
  · exact firstDistinct spec member
  · exact secondDistinct spec member

theorem overrides_distinct (items : List Text) (env : Env) (made : Env.ofOverrides items = .ok env) : env.Distinct := by
  rw [Env.ofOverrides] at made
  obtain ⟨entries, _, same⟩ := map_ok made
  rw [← same]
  exact Env.of_entries_distinct entries

theorem built_proper (load : Path → List (Text × Datum) → Except Fault Plan) (options : SweepOptions) (plan : Plan)
    (proper : ∀ path given loaded, load path given = .ok loaded → loaded.IsProper)
    (built : buildPlanWith load options = .ok plan) : plan.IsProper := by
  obtain ⟨extras, read, comes⟩ := build_is_built load options plan built
  have asked := of_options_read options extras read
  have ownSetup := setup_distinct options extras.setup asked.setup
  have own : ∀ spec ∈ extras.steps, spec.env.Distinct := by
    rw [asked.steps]
    exact own_steps_distinct options
  cases comes with
  | ofOptions _ planned =>
      obtain ⟨env, steps, setup⟩ := options_extras options extras plan planned
      constructor
      · rw [env]
        exact overrides_distinct options.env extras.env asked.env
      · rw [steps]
        exact own
      · rw [setup]
        exact ownSetup
  | extending path loaded _ found extended =>
      subst extended
      have before := proper path _ loaded found
      exact ⟨Env.distinct_update loaded.env extras.env before.env,
        appended_distinct loaded.steps extras.steps before.steps own,
        appended_distinct loaded.setup extras.setup before.setup ownSetup⟩

end ConstantSweep.CommandLine

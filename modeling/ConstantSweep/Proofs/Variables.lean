import ConstantSweep.Proofs.Course
import ConstantSweep.Proofs.Plan
import ConstantSweep.CommandLine.App
import ConstantSweep.Sweep.Rehearsed

set_option autoImplicit false

namespace ConstantSweep.Env

open ConstantSweep.Sweep
open ConstantSweep.Text

section Overrides

-- An item of a command line sets a variable. Its name holds no equals sign; its text is all that follows the first one.
def Sets (item name text : Text) : Prop :=
  item.toList = name.toList ++ .char '=' :: text.toList ∧ .char '=' ∉ name.toList

-- What the items of a command line ask for a variable: the last one that sets it counts.
inductive Asked (items : List Text) (name : Text) : Option Text → Prop where
  | named (before : List Text) (item : Text) (after : List Text) (text : Text) : items = before ++ item :: after →
      Sets item name text → (∀ later ∈ after, ∀ other, ¬ Sets later name other) → Asked items name (some text)
  | unnamed : (∀ item ∈ items, ∀ other, ¬ Sets item name other) → Asked items name none

def nameIn (item : Text) : Text := ⟨item.toList.takeWhile (· != .char '=')⟩

theorem sets_name (item name text : Text) (sets : Sets item name text) : nameIn item = name := by
  obtain ⟨parts, plain⟩ := sets
  have before : ∀ letter ∈ name.toList, (letter != .char '=') = true := by
    intro letter member
    rw [bne_iff_ne]
    rintro rfl
    exact plain member
  rw [nameIn, parts, List.takeWhile_append_of_pos before, List.takeWhile_cons_of_neg (by decide), List.append_nil]

theorem split_override_sets (item : Text) (entry : Text × Text) (made : splitOverride item = .ok entry) :
    Sets item entry.1 entry.2 := by
  rw [splitOverride] at made
  split at made
  · rename_i sign rest split
    split at made
    · cases made
    · cases made
      have ends := List.head?_dropWhile_not (· != .char '=') item.toList
      rw [split] at ends
      have same : sign = .char '=' := by simpa using ends
      subst same
      refine ⟨?_, fun member => ?_⟩
      · rw [← split]
        exact List.takeWhile_append_dropWhile.symm
      · have kept := List.all_eq_true.mp (List.all_takeWhile (p := (· != .char '=')) (l := item.toList)) _ member
        exact absurd kept (by decide)
  · cases made

theorem overrides_asked (items : List Text) (entries : Env) (made : items.mapM splitOverride = .ok entries) (name : Text) :
    Asked items name (get? entries.reverse name) := by
  induction items generalizing entries with
  | nil =>
      cases made
      exact .unnamed fun item member => nomatch member
  | cons item rest ih =>
      rw [List.mapM_cons] at made
      obtain ⟨first, split, made⟩ := bind_ok made
      obtain ⟨more, others, made⟩ := bind_ok made
      cases made
      have sets := split_override_sets item first split
      rw [List.reverse_cons, get_append]
      -- The first item counts only if none of the later ones sets the variable.
      cases found : get? more.reverse name with
      | some text =>
          have asked := ih more others
          rw [found] at asked
          cases asked with
          | named before last after _ parts its later =>
              exact .named (item :: before) last after text (by rw [parts, List.cons_append]) its later
      | none =>
          have asked := ih more others
          rw [found] at asked
          cases asked with
          | unnamed silent =>
              rw [Option.none_or, get?, get?]
              split
              · rename_i same
                rw [beq_iff_eq] at same
                subst same
                exact .named [] item rest first.2 rfl sets silent
              · rename_i other
                refine .unnamed fun one member text its => ?_
                rcases List.mem_cons.mp member with rfl | member
                · have same := (sets_name _ _ _ sets).symm.trans (sets_name _ _ _ its)
                  exact other (beq_iff_eq.mpr same)
                · exact silent one member text its

-- Where no later item sets the variable, an item that sets it and stands no further to the front is the same.
theorem last_unique (name item text other text' : Text) (after after' between : List Text) (sets : Sets item name text)
    (sets' : Sets other name text') (last : ∀ later ∈ after, ∀ text, ¬ Sets later name text)
    (parts : item :: after = between ++ other :: after') : text = text' := by
  cases between with
  | nil =>
      obtain ⟨rfl, _⟩ := List.cons.inj parts
      have same := List.append_cancel_left (sets.1.symm.trans sets'.1)
      exact congrArg Text.ofList (List.cons.inj same).2
  | cons _ between =>
      obtain ⟨_, rest⟩ := List.cons.inj parts
      have member : other ∈ after := by simp [rest]
      exact absurd sets' (last other member text')

theorem asked_unique (items : List Text) (name : Text) (first second : Option Text) (one : Asked items name first)
    (other : Asked items name second) : first = second := by
  cases one with
  | unnamed silent =>
      cases other with
      | unnamed _ => rfl
      | named before item after text parts sets _ =>
          have member : item ∈ items := by simp [parts]
          exact absurd sets (silent item member text)
  | named before item after text parts sets last =>
      cases other with
      | unnamed silent =>
          have member : item ∈ items := by simp [parts]
          exact absurd sets (silent item member text)
      | named before' item' after' text' parts' sets' last' =>
          rw [parts] at parts'
          rcases List.append_eq_append_iff.mp parts' with ⟨between, _, later⟩ | ⟨between, _, later⟩
          · exact congrArg some (last_unique name item text item' text' after after' between sets sets' last later)
          · exact congrArg some (last_unique name item' text' item text after' after between sets' sets last' later).symm

theorem overrides_names (items : List Text) (entries : Env) (made : items.mapM splitOverride = .ok entries) :
    entries.names = items.map nameIn := by
  induction items generalizing entries with
  | nil =>
      cases made
      rfl
  | cons item rest ih =>
      rw [List.mapM_cons] at made
      obtain ⟨first, split, made⟩ := bind_ok made
      obtain ⟨more, others, made⟩ := bind_ok made
      cases made
      rw [List.map_cons, ← ih more others, sets_name item first.1 first.2 (split_override_sets item first split)]
      rfl

end Overrides

-- The variables of a plan's file with the items of a command line over them.
structure Overlays (env file : Env) (items : List Text) : Prop where
  found : ∀ name, ∃ asked, Asked items name asked ∧ env.get? name = asked.or (file.get? name)
  names : env.names = (file.names ++ items.map nameIn).eraseDups

theorem overlays_distinct (env file : Env) (items : List Text) (overlays : Overlays env file items) : env.Distinct := by
  rw [Distinct, overlays.names]
  exact nodup_erase_dups _

theorem overrides_overlay (items : List Text) (overrides : Env) (made : ofOverrides items = .ok overrides) :
    Overlays overrides [] items := by
  rw [ofOverrides] at made
  obtain ⟨entries, listed, rfl⟩ := map_ok made
  refine ⟨fun name => ⟨_, overrides_asked items entries listed name, get_update [] entries name⟩, ?_⟩
  rw [names_of_entries, overrides_names items entries listed]
  rfl

theorem update_overlays (file overrides : Env) (items : List Text) (distinct : file.Distinct)
    (overlay : Overlays overrides [] items) : Overlays (file.update overrides) file items := by
  constructor
  · intro name
    obtain ⟨asked, its, found⟩ := overlay.found name
    refine ⟨asked, its, ?_⟩
    rw [get_update, get_reverse _ (overlays_distinct overrides [] items overlay), found, get?, Option.or_none]
  · rw [names_update file _ distinct, overlay.names, erase_dups_append_right]
    rfl

end ConstantSweep.Env

namespace ConstantSweep.Sweep

open ConstantSweep.Env
open ConstantSweep.Shell
open ConstantSweep.Text

section Filling

def filled (env : Env) (value : Option Int) : Env := env.map fun (name, text) => (name, Template.render text value)

theorem names_filled (env : Env) (value : Option Int) : (filled env value).names = env.names := by
  rw [Env.names, filled, List.map_map]
  rfl

theorem get_filled (env : Env) (value : Option Int) (name : Text) :
    (filled env value).get? name = (env.get? name).map fun text => Template.render text value := by
  induction env with
  | nil => rfl
  | cons entry rest ih =>
      rw [filled, List.map_cons, Env.get?, Env.get?]
      split
      · rfl
      · exact ih

theorem names_of_env (env : Env) : (CommonEnv.ofEnv env).map Prod.fst = env.names := by
  rw [CommonEnv.ofEnv, List.map_map]
  rfl

theorem set_variable_of_env (env : Env) (name text : Text) :
    setVariable (CommonEnv.ofEnv env) name (.text text) = CommonEnv.ofEnv (env.set name text) := by
  induction env with
  | nil => rfl
  | cons entry rest ih =>
      obtain ⟨other, old⟩ := entry
      rw [CommonEnv.ofEnv, List.map_cons, setVariable, Env.set]
      split
      · rfl
      · exact congrArg (_ :: ·) ih

def setVariables (env : List (Text × Datum)) (changes : List (Text × Datum)) : List (Text × Datum) :=
  changes.foldl (fun env (name, text) => setVariable env name text) env

theorem set_variables_of_env (env changes : Env) :
    setVariables (CommonEnv.ofEnv env) (CommonEnv.ofEnv changes) = CommonEnv.ofEnv (env.update changes) := by
  induction changes generalizing env with
  | nil => rfl
  | cons change rest ih =>
      obtain ⟨name, text⟩ := change
      have step : setVariables (CommonEnv.ofEnv env) (CommonEnv.ofEnv ((name, text) :: rest)) =
          setVariables (setVariable (CommonEnv.ofEnv env) name (.text text)) (CommonEnv.ofEnv rest) := rfl
      rw [step, set_variable_of_env, ih]
      rfl

theorem render_text (text : Text) (value : Option Int) (filling : Datum)
    (rendered : (Datum.text text).render value = .ok filling) : filling = .text (Template.render text value) := by
  cases value with
  | none =>
      cases rendered
      rfl
  | some value =>
      rw [Datum.render] at rendered
      split at rendered
      · cases rendered
        rfl
      · cases rendered

theorem render_variables_filled (env : Env) (value : Option Int) (made : List (Text × Datum))
    (rendered : renderVariables (CommonEnv.ofEnv env) value = .ok made) :
    made = CommonEnv.ofEnv (filled env value) := by
  induction env generalizing made with
  | nil =>
      cases rendered
      rfl
  | cons entry rest ih =>
      obtain ⟨name, text⟩ := entry
      rw [renderVariables, CommonEnv.ofEnv, List.map_cons, List.mapM_cons] at rendered
      obtain ⟨first, one, rendered⟩ := bind_ok rendered
      obtain ⟨more, others, rendered⟩ := bind_ok rendered
      cases rendered
      rw [ih more others]
      obtain ⟨filling, template, same⟩ := map_ok one
      rw [← same, render_text text value filling template]
      rfl

theorem instantiate_env (spec : StepSpec) (common : Env) (value : Option Int) (step : Step)
    (made : spec.instantiate (CommonEnv.ofEnv common) value = .ok step) :
    step.env = CommonEnv.ofEnv ((filled common value).update (filled spec.env value)) := by
  rw [StepSpec.instantiate] at made
  obtain ⟨env, shared, made⟩ := bind_ok made
  obtain ⟨own, itsOwn, made⟩ := bind_ok made
  have sharedFilled := render_variables_filled common value env shared
  have ownFilled := render_variables_filled spec.env value own itsOwn
  subst sharedFilled ownFilled
  obtain ⟨command, _, made⟩ := bind_ok made
  split at made
  all_goals
    obtain ⟨description, _, made⟩ := bind_ok made
    cases made
    exact set_variables_of_env _ _

end Filling

section Processes

-- A variable and the bytes that a process is passed for it. A name that holds an equals sign cannot be passed.
structure Passes (entry : Text × Text) (binding : Octets × Octets) : Prop where
  name : octetsOf entry.1 = .ok binding.1
  plain : '=' ∉ binding.1
  text : octetsOf entry.2 = .ok binding.2

theorem passes_iff (entry : Text × Text) (binding : Octets × Octets) :
    (do
      let name ← octetsOf entry.1
      if name.contains '=' then throw .illegalVariable
      return (name, ← octetsOf entry.2) : Except Fault (Octets × Octets)) = .ok binding ↔ Passes entry binding := by
  constructor
  · intro made
    obtain ⟨octets, named, made⟩ := bind_ok made
    dsimp only at made
    split at made
    · obtain ⟨_, thrown, _⟩ := bind_ok made
      cases thrown
    · rename_i plain
      obtain ⟨content, texted, made⟩ := bind_ok made
      cases made
      exact ⟨named, fun member => plain (List.contains_iff_mem.mpr member), texted⟩
  · rintro ⟨named, plain, texted⟩
    have unsigned : ¬ binding.1.contains '=' = true := fun member => plain (List.contains_iff_mem.mp member)
    rw [named, texted]
    change (do
      if binding.1.contains '=' then throw .illegalVariable
      return (binding.1, ← Except.ok binding.2) : Except Fault (Octets × Octets)) = _
    rw [if_neg unsigned]
    rfl

theorem process_env_iff (parent whole : Env) (own : List (Text × Datum)) (bindings : List (Octets × Octets))
    (gathered : setVariables (CommonEnv.ofEnv parent) own = CommonEnv.ofEnv whole) :
    processEnv parent own = .ok bindings ↔ List.Forall₂ Passes whole bindings := by
  rw [processEnv]
  change (setVariables (CommonEnv.ofEnv parent) own).mapM _ = _ ↔ _
  rw [gathered, map_m_iff, CommonEnv.ofEnv, List.forall₂_map_left_iff]
  exact ⟨fun all => all.imp fun entry binding => (passes_iff entry binding).mp,
    fun all => all.imp fun entry binding => (passes_iff entry binding).mpr⟩

theorem passed_bindings (ground : Ground) (step : Step) (command : Text) (bindings : List (Octets × Octets))
    (others : Octets × Octets × List Octets) (made : passedOn ground step command = .ok (bindings, others)) :
    processEnv ground.env step.env = .ok bindings := by
  rw [passedOn] at made
  obtain ⟨written, given, made⟩ := bind_ok made
  dsimp only at made
  obtain ⟨name, _, made⟩ := bind_ok made
  split at made
  · obtain ⟨_, thrown, _⟩ := bind_ok made
    cases thrown
  · obtain ⟨arguments, _, made⟩ := bind_ok made
    split at made
    · obtain ⟨_, thrown, _⟩ := bind_ok made
      cases thrown
    · obtain ⟨_, _, made⟩ := bind_ok made
      cases made
      exact given

theorem prepared_bindings (ground : Ground) (step : Step) (prepared : Prepared)
    (made : prepare ground step = .ok prepared) :
    processEnv ground.env step.env = .ok prepared.setting.bindings := by
  rw [prepare] at made
  split at made
  · cases made
  · obtain ⟨command, _, made⟩ := bind_ok made
    obtain ⟨⟨bindings, name, searchPath, arguments⟩, passed, made⟩ := bind_ok made
    obtain ⟨here, _, made⟩ := bind_ok made
    obtain ⟨executable, _, made⟩ := bind_ok made
    cases made
    cases handed : passedOn ground step command with
    | error fault =>
        rw [handed] at passed
        cases passed
    | ok all =>
        rw [handed] at passed
        cases passed
        exact passed_bindings ground step command bindings _ handed

end Processes

section Precedence

-- What is found under a name. An entry of the step's own comes first, then what the command line asks for, then an entry
-- of the plan's file; into these the value is put. Where none of them has the name, it is as the parent has it.
inductive Finds (own : Env) (items : List Text) (file : Env) (value : Option Int) (parent : Env) (name : Text) :
    Option Text → Prop where
  | own (text : Text) : own.get? name = some text →
      Finds own items file value parent name (some (Template.render text value))
  | asked (text : Text) : own.get? name = none → Asked items name (some text) →
      Finds own items file value parent name (some (Template.render text value))
  | planned (text : Text) : own.get? name = none → Asked items name none → file.get? name = some text →
      Finds own items file value parent name (some (Template.render text value))
  | inherited : own.get? name = none → Asked items name none → file.get? name = none →
      Finds own items file value parent name (parent.get? name)

structure Gathers (own : Env) (items : List Text) (file : Env) (value : Option Int) (parent whole : Env) : Prop where
  found : ∀ name text?, whole.get? name = text? ↔ Finds own items file value parent name text?
  once : parent.Distinct → whole.Distinct

-- A process of the step has the variables of its parent with those of the step over them, and fails to get them only
-- where one cannot be passed.
structure Step.Draws (step : Step) (own : Env) (items : List Text) (file : Env) (value : Option Int) : Prop where
  given : ∀ parent, ∃ whole, Gathers own items file value parent whole ∧
    ∀ bindings, processEnv parent step.env = .ok bindings ↔ List.Forall₂ Passes whole bindings
  passable : ∀ parent : Env, parent.Distinct → ((∃ bindings, processEnv parent step.env = .ok bindings) ↔
    ∀ name text, Finds own items file value parent name (some text) → ∃ binding, Passes (name, text) binding)
  prepared : ∀ ground prepared, prepare ground step = .ok prepared →
    processEnv ground.env step.env = .ok prepared.setting.bindings
  names : step.env.map Prod.fst = (file.names ++ items.map nameIn ++ own.names).eraseDups
  once : (step.env.map Prod.fst).Nodup

variable (own : Env) (items : List Text) (common file : Env) (value : Option Int)

theorem finds_unique (parent : Env) (name : Text) (first second : Option Text)
    (one : Finds own items file value parent name first) (other : Finds own items file value parent name second) :
    first = second := by
  cases one <;> cases other <;> grind [asked_unique]

theorem overlaid_finds (overlays : common.Overlays file items) (distinct : own.Distinct) (parent : Env) (name : Text) :
    Finds own items file value parent name
      ((((filled common value).update (filled own value)).get? name).or (parent.get? name)) := by
  have ownDistinct : (filled own value).Distinct := by
    rw [Env.Distinct, names_filled]
    exact distinct
  rw [Env.get_update, Env.get_reverse _ ownDistinct, get_filled, get_filled]
  cases its : own.get? name with
  | some text => exact .own text its
  | none =>
      obtain ⟨asked, given, found⟩ := overlays.found name
      rw [found]
      cases asked with
      | some text => exact .asked text its given
      | none =>
          cases planned : file.get? name with
          | some text => exact .planned text its given planned
          | none => exact .inherited its given planned

theorem gathers_passable (parent whole : Env) (gathers : Gathers own items file value parent whole)
    (distinct : parent.Distinct) : (∃ bindings, List.Forall₂ Passes whole bindings) ↔
      ∀ name text, Finds own items file value parent name (some text) → ∃ binding, Passes (name, text) binding := by
  constructor
  · rintro ⟨bindings, passes⟩ name text finds
    have entry := Env.get_member whole name text ((gathers.found name (some text)).mpr finds)
    exact related_left passes (name, text) entry
  · intro passable
    have each : ∀ entry ∈ whole, ∃ binding, Passes entry binding := by
      rintro ⟨name, text⟩ member
      have found := Env.get_listed whole name text (gathers.once distinct) member
      exact passable name text ((gathers.found name (some text)).mp found)
    clear passable gathers
    induction whole with
    | nil => exact ⟨[], .nil⟩
    | cons entry rest ih =>
        obtain ⟨binding, passed⟩ := each entry List.mem_cons_self
        obtain ⟨bindings, others⟩ := ih fun other member => each other (List.mem_cons_of_mem _ member)
        exact ⟨binding :: bindings, .cons passed others⟩

theorem instantiate_draws (spec : StepSpec) (step : Step) (overlays : common.Overlays file items)
    (distinct : spec.env.Distinct) (made : spec.instantiate (CommonEnv.ofEnv common) value = .ok step) :
    step.Draws spec.env items file value := by
  have env := instantiate_env spec common value step made
  have commonDistinct : (filled common value).Distinct := by
    rw [Env.Distinct, names_filled]
    exact overlays_distinct common file items overlays
  have updated := Env.distinct_update _ (filled spec.env value) commonDistinct
  have below (parent : Env) : setVariables (CommonEnv.ofEnv parent) step.env =
      CommonEnv.ofEnv (parent.update ((filled common value).update (filled spec.env value))) := by
    rw [env, set_variables_of_env]
  have gathers (parent : Env) : Gathers spec.env items file value parent
      (parent.update ((filled common value).update (filled spec.env value))) := by
    refine ⟨fun name text? => ?_, fun parentDistinct => Env.distinct_update parent _ parentDistinct⟩
    -- One thing is found under a name, so both directions follow from that one.
    have finds := overlaid_finds spec.env items common file value overlays distinct parent name
    rw [Env.get_update, Env.get_reverse _ updated]
    constructor
    · rintro rfl
      exact finds
    · exact finds_unique spec.env items file value parent name _ _ finds
  constructor
  · intro parent
    exact ⟨_, gathers parent, fun bindings => process_env_iff parent _ step.env bindings (below parent)⟩
  · intro parent parentDistinct
    rw [← gathers_passable spec.env items file value parent _ (gathers parent) parentDistinct]
    simp only [process_env_iff parent _ step.env _ (below parent)]
  · exact fun ground prepared ready => prepared_bindings ground step prepared ready
  · rw [env, names_of_env, Env.names_update _ _ commonDistinct, names_filled, names_filled, overlays.names,
      erase_dups_append_left]
  · rw [env, names_of_env]
    exact updated

end Precedence

-- The commands of the plan that become the steps of a value, or of the setup.
def Plan.specsOf (plan : Plan) (value : Option Int) : List StepSpec :=
  match value with
  | none => plan.setup
  | some _ => plan.steps

end ConstantSweep.Sweep

namespace ConstantSweep.CommandLine

open ConstantSweep.Shell
open ConstantSweep.Sweep
open ConstantSweep.Text

-- The variables of the plan that the options name, without those that they ask for; if they name none there are none.
inductive IsFileEnv (load : Path → List (Text × Datum) → Except Fault Plan) (options : SweepOptions) : Env → Prop where
  | absent : options.plan = none → IsFileEnv load options []
  | loaded (path : Path) (extras : Extras) (loaded : Plan) : options.plan = some path →
      Extras.ofOptions options = .ok extras → load path (overrides options extras.values) = .ok loaded →
      IsFileEnv load options loaded.env

section Building

variable (load : Path → List (Text × Datum) → Except Fault Plan) (options : SweepOptions) (plan : Plan)

theorem built_overlays (proper : ∀ path given loaded, load path given = .ok loaded → loaded.IsProper)
    (built : buildPlanWith load options = .ok plan) :
    ∃ file, IsFileEnv load options file ∧ plan.env.Overlays file options.env := by
  obtain ⟨extras, read, comes⟩ := build_is_built load options plan built
  have overlay := Env.overrides_overlay options.env extras.env (of_options_read options extras read).env
  cases comes with
  | ofOptions absent planned =>
      refine ⟨[], .absent absent, ?_⟩
      rw [(options_extras options extras plan planned).1]
      exact overlay
  | extending path loaded given found extended =>
      refine ⟨loaded.env, .loaded path extras loaded given read found, ?_⟩
      rw [extended]
      exact Env.update_overlays loaded.env extras.env options.env (proper path _ loaded found).env overlay

theorem steps_of_plan (dryRun : Bool) (request : Request) (made : planRequest plan dryRun = .ok request)
    (value : Option Int) (steps : List Step) (factory : request.stepsOf value = .ok steps) :
    stepsFor (plan.specsOf value) (CommonEnv.ofEnv plan.env) value = .ok steps := by
  obtain ⟨setup, prepared, made⟩ := bind_ok made
  cases made
  cases value with
  | none =>
      cases factory
      exact prepared
  | some value => exact factory

-- Every step of a planned sweep and of its setup draws its variables from the plan, the command line and the file, in the
-- order of precedence.
theorem variables_by_precedence (proper : ∀ path given loaded, load path given = .ok loaded → loaded.IsProper)
    (built : buildPlanWith load options = .ok plan) (dryRun : Bool) (request : Request)
    (made : planRequest plan dryRun = .ok request) (value : Option Int) (steps : List Step)
    (factory : request.stepsOf value = .ok steps) (position : Nat) (step : Step) (here : steps[position]? = some step) :
    ∃ spec file, (plan.specsOf value)[position]? = some spec ∧ IsFileEnv load options file ∧
      step.Draws spec.env options.env file value := by
  obtain ⟨file, its, overlays⟩ := built_overlays load options plan proper built
  have instances := steps_of_plan plan dryRun request made value steps factory
  obtain ⟨spec, listed, instantiated⟩ := map_m_at _ _ steps instances position step here
  have distinct : spec.env.Distinct := by
    have properly := built_proper load options plan proper built
    have member := List.mem_of_getElem? listed
    cases value with
    | none => exact properly.setup spec member
    | some value => exact properly.steps spec member
  exact ⟨spec, file, listed, its, instantiate_draws options.env plan.env file value spec step overlays distinct instantiated⟩

end Building

namespace Sample

def document : Datum :=
  .map [(.text "values", .list [.int 2]), (.text "target", .text "c.txt"), (.text "pattern", .text "X"),
    (.text "template", .text "X"), (.text "env", .map [(.text "A", .text "a\x7bv\x7d"), (.text "B", .text "b")]),
    (.text "steps", .list [.map [(.text "command", .text "true"), (.text "env", .map [(.text "C", .text "c\x7bv\x7d")])]])]

def load : Path → List (Text × Datum) → Except Fault Plan :=
  Plan.loadWith (fun _ => .ok document) ⟨[(["p.yaml"], .file [] false)]⟩

def overriding : SweepOptions :=
  ⟨some (Path.ofText "p.yaml"), none, none, none, none, [], ["B=o", "C=o", "B=p\x7bv\x7d"], none, none, [], false, false,
    false, none⟩

def drawn : Except Fault (Plan × Request × List Step) := do
  let plan ← buildPlanWith load overriding
  let request ← planRequest plan false
  let steps ← request.stepsOf (some 2)
  return (plan, request, steps)

def ground : Ground := ⟨⟨⟨[]⟩, [], []⟩, [("A", "old"), ("D", "d\x7bv\x7d")], true⟩

def bindings : List (Octets × Octets) :=
  [("A".toList, "a2".toList), ("D".toList, "d\x7bv\x7d".toList), ("B".toList, "p2".toList), ("C".toList, "c2".toList)]

def isGiven (steps : List Step) : Bool :=
  match steps with
  | [step] => (prepare ground step).toOption.any fun prepared => prepared.setting.bindings == bindings
  | _ => false

end Sample

theorem variables_by_precedence_once :
    ∃ plan request step spec file prepared, buildPlanWith Sample.load Sample.overriding = .ok plan ∧
      planRequest plan false = .ok request ∧ request.stepsOf (some 2) = .ok [step] ∧
      prepare Sample.ground step = .ok prepared ∧ prepared.setting.bindings = Sample.bindings ∧
      (plan.specsOf (some 2))[0]? = some spec ∧ IsFileEnv Sample.load Sample.overriding file ∧
      step.Draws spec.env Sample.overriding.env file (some 2) := by
  have known : (Sample.drawn.toOption.any fun drawn => Sample.isGiven drawn.2.2) = true := by
    decide +kernel
  obtain ⟨⟨plan, request, steps⟩, found, given⟩ := (Option.any_eq_true _ _).mp known
  obtain ⟨first, built, all⟩ := bind_ok (to_option_ok found)
  obtain ⟨second, made, all⟩ := bind_ok all
  obtain ⟨third, factory, all⟩ := bind_ok all
  cases all
  cases steps with
  | nil => cases given
  | cons step rest =>
      cases rest with
      | cons _ _ => cases given
      | nil =>
          obtain ⟨prepared, ready, same⟩ := (Option.any_eq_true _ _).mp given
          obtain ⟨spec, file, listed, its, draws⟩ := variables_by_precedence Sample.load Sample.overriding plan
            (fun path given loaded found => (load_plan _ _ path given loaded found).2) built false request made (some 2)
            [step] factory 0 step rfl
          exact ⟨plan, request, step, spec, file, prepared, built, made, factory, to_option_ok ready, beq_iff_eq.mp same,
            listed, its, draws⟩

end ConstantSweep.CommandLine

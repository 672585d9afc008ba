import ConstantSweep.Proofs.Path
import ConstantSweep.Proofs.Plan

set_option autoImplicit false

namespace ConstantSweep.Datum

open ConstantSweep.Text

theorem same_key_text (key : Datum) (name : Text) : key.sameKey (.text name) = true ↔ key = .text name := by
  cases key <;> simp [sameKey, integer?]

theorem same_key_self (name : Text) : (Datum.text name).sameKey (.text name) = true :=
  (same_key_text (.text name) name).mpr rfl

theorem same_key_other (key : Datum) (name other : Text) (here : key.sameKey (.text name) = true)
    (different : name ≠ other) : key.sameKey (.text other) = false := by
  rw [Bool.eq_false_iff]
  intro there
  rw [same_key_text] at here there
  exact different (Datum.text.inj (here.symm.trans there))

theorem lookup_cons (key value : Datum) (rest : List (Datum × Datum)) (name : Text) :
    lookup? ((key, value) :: rest) name = if key.sameKey (.text name) then some value else lookup? rest name := by
  rw [lookup?, List.find?_cons]
  cases key.sameKey (.text name) with
  | true => rfl
  | false => rfl

theorem lookup_append (first second : List (Datum × Datum)) (name : Text) :
    lookup? (first ++ second) name = (lookup? first name).or (lookup? second name) := by
  induction first with
  | nil => rfl
  | cons entry rest ih =>
      obtain ⟨key, value⟩ := entry
      rw [List.cons_append, lookup_cons, lookup_cons, ih]
      split
      · rfl
      · rfl

theorem lookup_none_iff (entries : List (Datum × Datum)) (name : Text) :
    lookup? entries name = none ↔ (entries.any fun entry => entry.1.sameKey (.text name)) = false := by
  rw [lookup?, Option.map_eq_none_iff, List.find?_eq_none, List.any_eq_false]

def setAll (entries : List (Datum × Datum)) (name : Text) (value : Datum) : List (Datum × Datum) :=
  entries.map fun entry => if entry.1.sameKey (.text name) then (entry.1, value) else entry

theorem lookup_set_all (entries : List (Datum × Datum)) (name other : Text) (value : Datum) :
    lookup? (setAll entries name value) other =
      if name = other then (lookup? entries other).map fun _ => value else lookup? entries other := by
  induction entries with
  | nil =>
      split
      · rfl
      · rfl
  | cons entry rest ih =>
      obtain ⟨key, old⟩ := entry
      rw [setAll, List.map_cons, ← setAll, lookup_cons key old]
      by_cases here : key.sameKey (.text name) = true
      · rw [if_pos here, lookup_cons, ih]
        by_cases same : name = other
        · subst same
          simp [here]
        · have passed := same_key_other key name other here same
          simp [passed, same]
      · rw [if_neg here, lookup_cons, ih]
        by_cases same : name = other
        · subst same
          simp [here]
        · simp [same]

theorem lookup_insert (entries : List (Datum × Datum)) (name other : Text) (value : Datum) :
    lookup? (insert entries (.text name) value) other =
      if name = other then some value else lookup? entries other := by
  rw [insert]
  by_cases known : (entries.any fun entry => entry.1.sameKey (.text name)) = true
  · rw [if_pos known]
    change lookup? (setAll entries name value) other = _
    rw [lookup_set_all]
    by_cases same : name = other
    · subst same
      rw [if_pos rfl, if_pos rfl]
      cases found : lookup? entries name with
      | some old => rfl
      | none => exact absurd ((lookup_none_iff entries name).mp found) (by simp [known])
    · rw [if_neg same, if_neg same]
  · rw [if_neg known, lookup_append, lookup_cons]
    by_cases same : name = other
    · subst same
      rw [(lookup_none_iff entries name).mpr (Bool.eq_false_iff.mpr known), if_pos (same_key_self name), if_pos rfl,
        Option.none_or]
    · have passed := same_key_other (.text name) name other (same_key_self name) same
      rw [passed, if_neg Bool.false_ne_true, if_neg same]
      exact Option.or_none

theorem lookup_subst (label : Label) (whole : Datum) (entries : List (Datum × Datum)) (name : Text) :
    lookup? (substEntries label whole entries) name = (lookup? entries name).map (subst label whole) := by
  induction entries with
  | nil => rfl
  | cons entry rest ih =>
      obtain ⟨key, value⟩ := entry
      rw [substEntries, lookup_cons, lookup_cons, ih]
      split
      · rfl
      · rfl

def IsClosed (value : Datum) : Prop := ∀ label whole, subst label whole value = value

theorem text_closed (text : Text) : (Datum.text text).IsClosed := by
  intro label whole
  rfl

theorem integers_closed (values : List Int) : (Datum.list (values.map .int)).IsClosed := by
  intro label whole
  have each : substEach label whole (values.map .int) = values.map .int := by
    induction values with
    | nil => rfl
    | cons value rest ih =>
        rw [List.map_cons, substEach, ih]
        rfl
  rw [subst, each]

end ConstantSweep.Datum

namespace ConstantSweep.Sweep

open ConstantSweep.Text

namespace Plan

-- The entries of a document that is a map, or nothing at all. Where the map stands inside itself, it is the map with
-- the given entries that stands there.
def entriesOf (given : List (Text × Datum)) : Datum → Option (List (Datum × Datum))
  | .null => some []
  | .map entries => some entries
  | .loop label (.map entries) =>
      some (Datum.substEntries label (override given (.loop label (.map entries))) entries)
  | _ => none

theorem lookup_override (given : List (Text × Datum)) (entries : List (Datum × Datum)) (name : Text) :
    Datum.lookup? (overrideEntries given entries) name =
      (given.reverse.lookup name).or (Datum.lookup? entries name) := by
  induction given generalizing entries with
  | nil => rfl
  | cons entry rest ih =>
      obtain ⟨changed, value⟩ := entry
      have step : overrideEntries ((changed, value) :: rest) entries =
          overrideEntries rest (Datum.insert entries (.text changed) value) := rfl
      have single : [(changed, value)].lookup name = if changed = name then some value else none := by
        by_cases same : changed = name
        · subst same
          simp
        · have other := beq_eq_false_iff_ne.mpr (Ne.symm same)
          simp [List.lookup_cons, other, same]
      rw [step, ih, Datum.lookup_insert, List.reverse_cons, List.lookup_append, single, Option.or_assoc]
      split
      · rw [Option.some_or]
      · rw [Option.none_or]

def ofGiven (path : Path) (given : List (Text × Datum)) (document : Datum) : Except Fault Plan :=
  match (override given document).unrolled with
  | .null => ofEntries path (given.any fun entry => entry.1 == "target") (overrideEntries given [])
  | .map entries => ofEntries path (given.any fun entry => entry.1 == "target") entries
  | _ => .error (.planNotAMapping path.text)

theorem of_given_document (path : Path) (given : List (Text × Datum)) (document : Datum)
    (present : ∀ entry ∈ given, entry.2 ≠ .null) : ofDatum path given document = ofGiven path given document := by
  change ofGiven path (given.filter _) document = ofGiven path given document
  rw [List.filter_eq_self.mpr]
  intro entry member
  have some := present entry member
  split
  · rename_i null
    exact absurd null some
  · rfl

-- Whatever kind of document it is, what a plan finds in it is what is given, or else what the document has.
theorem overridden_document (path : Path) (given : List (Text × Datum)) (document : Datum)
    (entries : List (Datum × Datum)) (present : ∀ entry ∈ given, entry.2 ≠ .null)
    (closed : ∀ entry ∈ given, entry.2.IsClosed) (listed : entriesOf given document = some entries) :
    ∃ all, ofDatum path given document = ofEntries path (given.any fun entry => entry.1 == "target") all ∧
      ∀ name, Datum.lookup? all name = (given.reverse.lookup name).or (Datum.lookup? entries name) := by
  rw [of_given_document path given document present]
  unfold entriesOf at listed
  split at listed
  · cases listed
    exact ⟨overrideEntries given [], rfl, lookup_override given []⟩
  · cases listed
    exact ⟨overrideEntries given entries, rfl, lookup_override given entries⟩
  · rename_i label entries
    cases listed
    refine ⟨Datum.substEntries label (override given (.loop label (.map entries))) (overrideEntries given entries), rfl,
      fun name => ?_⟩
    rw [Datum.lookup_subst, Datum.lookup_subst, lookup_override]
    cases found : given.reverse.lookup name with
    | none => rfl
    | some value =>
        obtain ⟨before, after, parts, _⟩ := List.lookup_eq_some_iff.mp found
        have member : (name, value) ∈ given := by
          rw [← List.mem_reverse, parts]
          exact List.mem_append_right before List.mem_cons_self
        exact congrArg some (closed (name, value) member label _)
  · cases listed

structure Supply where
  steps : List StepSpec
  setup : List StepSpec
  env : Env
  policy : Policy
  restore : Bool

def entry (entries : List (Datum × Datum)) (name : String) : Datum := (Datum.lookup? entries name).getD .null

structure Supplies (entries : List (Datum × Datum)) (supply : Supply) : Prop where
  steps : (optionalElements (entry entries "steps")).bind (List.mapM stepOfDatum) = .ok supply.steps
  setup : (optionalElements (entry entries "setup")).bind (List.mapM stepOfDatum) = .ok supply.setup
  env : planVariables (entry entries "env") = .ok supply.env
  policy : Policy.ofDatum ((Datum.lookup? entries "policy").getD (.text Policy.failFast.name)) = .ok supply.policy
  restore : (entry entries "restore").isTruthy = supply.restore

def Supply.plan (supply : Supply) (config : SweepConfig) : Plan :=
  ⟨config, supply.steps, supply.setup, supply.env, supply.policy, supply.restore⟩

def nothing : Supply := ⟨[], [], [], .failFast, false⟩

theorem empty_supplies (supply : Supply) (supplies : Supplies [] supply) : supply = nothing := by
  obtain ⟨steps, setup, env, policy, restore⟩ := supply
  obtain ⟨noSteps, noSetup, noEnv, standard, unasked⟩ := supplies
  cases noSteps
  cases noSetup
  cases noEnv
  cases unasked
  have failFast : Policy.ofDatum (.text Policy.failFast.name) = .ok .failFast := rfl
  cases failFast.symm.trans standard
  rfl

section Configured

variable (values : List Int) (target pattern template : Text)

def configEntries : List (Text × Datum) :=
  [("values", .list (values.map .int)), ("target", .text target), ("pattern", .text pattern),
   ("template", .text template)]

def configOf : Except Fault SweepConfig :=
  SweepConfig.make (.list (values.map .int)) (some (Path.ofText target)) (some pattern) (.text template)

theorem config_entries_present : ∀ entry ∈ configEntries values target pattern template, entry.2 ≠ .null := by
  simp [configEntries]

theorem config_entries_closed : ∀ entry ∈ configEntries values target pattern template, entry.2.IsClosed := by
  simp [configEntries, Datum.integers_closed, Datum.text_closed]

theorem configured_entries (path : Path) (all entries : List (Datum × Datum)) (supply : Supply)
    (found : ∀ name, Datum.lookup? all name =
      ((configEntries values target pattern template).reverse.lookup name).or (Datum.lookup? entries name))
    (supplies : Supplies entries supply) :
    ofEntries path true all = (configOf values target pattern template).map supply.plan := by
  have valuesFound : Datum.lookup? all "values" = some (.list (values.map .int)) := found "values"
  have targetFound : Datum.lookup? all "target" = some (.text target) := found "target"
  have patternFound : Datum.lookup? all "pattern" = some (.text pattern) := found "pattern"
  have templateFound : Datum.lookup? all "template" = some (.text template) := found "template"
  have stepsFound : Datum.lookup? all "steps" = Datum.lookup? entries "steps" := found "steps"
  have setupFound : Datum.lookup? all "setup" = Datum.lookup? entries "setup" := found "setup"
  have envFound : Datum.lookup? all "env" = Datum.lookup? entries "env" := found "env"
  have policyFound : Datum.lookup? all "policy" = Datum.lookup? entries "policy" := found "policy"
  have restoreFound : Datum.lookup? all "restore" = Datum.lookup? entries "restore" := found "restore"
  have none : (requiredKeys.filter fun key => (Datum.lookup? all key).isNone) = [] := by
    simp only [requiredKeys, List.filter_cons, valuesFound, targetFound, patternFound, templateFound]
    rfl
  obtain ⟨elements, listed, steps⟩ := bind_ok supplies.steps
  obtain ⟨setupElements, setupListed, setup⟩ := bind_ok supplies.setup
  have env := supplies.env
  have policy := supplies.policy
  have restore := supplies.restore
  rw [entry] at listed setupListed env restore
  unfold ofEntries
  rw [none]
  dsimp only
  rw [valuesFound, targetFound, patternFound, templateFound, stepsFound, setupFound, envFound, policyFound,
    restoreFound, listed, setupListed, env, policy, restore]
  change (configOf values target pattern template >>= fun config => List.mapM stepOfDatum elements >>= fun steps =>
    List.mapM stepOfDatum setupElements >>= fun setup => _) = _
  rw [steps, setup]
  cases configOf values target pattern template with
  | error fault => rfl
  | ok config => rfl

end Configured

end Plan

end ConstantSweep.Sweep

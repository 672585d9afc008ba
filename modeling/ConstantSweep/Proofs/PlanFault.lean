import ConstantSweep.Proofs.Acceptance
import ConstantSweep.Proofs.Overriding

set_option autoImplicit false

namespace ConstantSweep.Datum

def hasItems (value : Datum) : Bool :=
  match value.unrolled with
  | .text _ => true
  | .bytes _ => true
  | .list _ => true
  | .tuple _ => true
  | .map _ => true
  | .set _ => true
  | _ => false

def isMapping : Datum → Bool
  | .map _ => true
  | _ => false

def defiesInteger : Datum → Bool
  | .bool _ => false
  | .int _ => false
  | .text _ => false
  | .bytes _ => false
  | .float value => value.isInfinite
  | _ => true

end ConstantSweep.Datum

namespace ConstantSweep.Sweep

open ConstantSweep.Text

section Slips

variable {α β : Type}

-- What fails does so by a fault that does not say that the input is wrong.
def Slips (result : Except Fault α) : Prop := ∃ fault, result = .error fault ∧ fault.isUsage = false

@[simp]
theorem slips_ok (value : α) : ¬ Slips (.ok value) := by
  rintro ⟨fault, failed, _⟩
  cases failed

@[simp]
theorem slips_pure (value : α) : ¬ Slips (pure value) := slips_ok value

@[simp]
theorem slips_error (fault : Fault) : Slips (.error fault : Except Fault α) ↔ fault.isUsage = false := by
  simp [Slips]

theorem slips_usage (fault : Fault) (usage : fault.isUsage = true) : ¬ Slips (.error fault : Except Fault α) := by
  simp [usage]

theorem slips_bind_iff (first : Except Fault α) (next : α → Except Fault β) :
    Slips (first >>= next) ↔ Slips first ∨ ∃ middle, first = .ok middle ∧ Slips (next middle) := by
  simp only [Slips, bind_error_iff]
  constructor
  · rintro ⟨fault, here | ⟨middle, made, later⟩, foreign⟩
    · exact .inl ⟨fault, here, foreign⟩
    · exact .inr ⟨middle, made, fault, later, foreign⟩
  · rintro (⟨fault, here, foreign⟩ | ⟨middle, made, fault, later, foreign⟩)
    · exact ⟨fault, .inl here, foreign⟩
    · exact ⟨fault, .inr ⟨middle, made, later⟩, foreign⟩

theorem slips_here {first : Except Fault α} {next : α → Except Fault β} (slips : Slips first) :
    Slips (first >>= next) :=
  (slips_bind_iff first next).mpr (.inl slips)

theorem slips_after {first : Except Fault α} {next : α → Except Fault β} {middle : α} (made : first = .ok middle)
    (slips : Slips (next middle)) : Slips (first >>= next) :=
  (slips_bind_iff first next).mpr (.inr ⟨middle, made, slips⟩)

inductive Breaks (Good Bad : α → Prop) : List α → Prop where
  | here (item : α) (rest : List α) : Bad item → Breaks Good Bad (item :: rest)
  | later (item : α) (rest : List α) : Good item → Breaks Good Bad rest → Breaks Good Bad (item :: rest)

@[simp]
theorem breaks_nil (Good Bad : α → Prop) : ¬ Breaks Good Bad [] := by
  intro breaks
  cases breaks

theorem breaks_cons (Good Bad : α → Prop) (item : α) (rest : List α) :
    Breaks Good Bad (item :: rest) ↔ Bad item ∨ Good item ∧ Breaks Good Bad rest := by
  constructor
  · intro breaks
    cases breaks with
    | here _ _ bad => exact .inl bad
    | later _ _ good breaks => exact .inr ⟨good, breaks⟩
  · rintro (bad | ⟨good, breaks⟩)
    · exact .here item rest bad
    · exact .later item rest good breaks

theorem slips_map_m_iff (make : α → Except Fault β) (items : List α) :
    Slips (items.mapM make) ↔ Breaks (fun item => ∃ one, make item = .ok one) (fun item => Slips (make item)) items := by
  induction items with
  | nil => simp
  | cons item rest ih =>
      rw [List.mapM_cons, breaks_cons]
      simp only [slips_bind_iff, slips_pure, and_false, exists_false, or_false, exists_and_right, ih]

theorem slips_bind_never (first : Except Fault α) (next : α → Except Fault β) (here : ¬ Slips first)
    (later : ∀ middle, ¬ Slips (next middle)) : ¬ Slips (first >>= next) := by
  rw [slips_bind_iff]
  rintro (slips | ⟨middle, _, slips⟩)
  · exact here slips
  · exact later middle slips

theorem slips_map_m_never (make : α → Except Fault β) (items : List α) (each : ∀ item, ¬ Slips (make item)) :
    ¬ Slips (items.mapM make) := by
  rw [slips_map_m_iff]
  intro breaks
  induction breaks with
  | here item rest slips => exact each item slips
  | later item rest good breaks ih => exact ih

theorem settles_unless_slips (result : Except Fault α) :
    ((∃ value, result = .ok value) ∨ ∃ fault, result = .error fault ∧ fault.isUsage = true) ↔ ¬ Slips result := by
  cases result with
  | ok value => simp
  | error fault => simp

end Slips

section Conversions

theorem slips_elements (value : Datum) : Slips value.elements ↔ value.hasItems = false := by
  rw [Datum.elements, Datum.hasItems]
  cases value.unrolled <;> simp <;> rfl

theorem slips_entries (value : Datum) : Slips value.mapEntries ↔ value.unrolled.isMapping = false := by
  rw [Datum.mapEntries]
  cases value.unrolled <;> simp [Datum.isMapping] <;> rfl

theorem slips_written (value : Datum) : ¬ Slips value.written := by
  rw [Datum.written]
  by_cases writable : value.isWritable
  · rw [if_pos writable]
    exact slips_ok _
  · rw [if_neg writable]
    exact slips_usage _ rfl

theorem about_usage (value : Datum) (fault : Fault) (usage : fault.isUsage = true) :
    (value.faultAbout fault).isUsage = true := by
  rw [Datum.faultAbout]
  split
  · exact usage
  · rfl

theorem slips_read (result : Except IntegerFault Int) : ¬ Slips (result.mapError Fault.integer) := by
  cases result with
  | ok value => exact slips_ok value
  | error cause => exact slips_usage (.integer cause) rfl

theorem slips_integer (value : Datum) : Slips value.toInteger ↔ value.defiesInteger = true := by
  cases value with
  | bool value => cases value <;> simp [Datum.toInteger, Datum.defiesInteger]
  | int value => simp [Datum.toInteger, Datum.defiesInteger]
  | float value =>
      rw [Datum.toInteger, Datum.defiesInteger]
      by_cases finite : value.isFinite
      · have bounded : value.isInfinite = false := by
          simp_all [Decimal.Binary64.isFinite, Decimal.Binary64.isInfinite]
        simp [Decimal.Binary64.truncate?, finite, bounded]
      · have unbounded : value.isInfinite = !value.isNaN := by
          simp_all [Decimal.Binary64.isFinite, Decimal.Binary64.isInfinite, Decimal.Binary64.isNaN, bne]
        rw [Decimal.Binary64.truncate?, if_neg finite, unbounded]
        cases value.isNaN <;> simp <;> rfl
  | text value => simp [Datum.toInteger, Datum.defiesInteger, slips_read]
  | bytes value => simp [Datum.toInteger, Datum.defiesInteger, slips_read]
  | _ => simp [Datum.toInteger, Datum.defiesInteger] ; rfl

theorem slips_words (line : Text) : ¬ Slips (splitCommand line) := by
  rw [splitCommand]
  cases words line with
  | ok found => exact slips_ok _
  | error cause => exact slips_usage _ rfl

theorem slips_policy (value : Datum) : ¬ Slips (Policy.ofDatum value) := by
  rw [Policy.ofDatum]
  split
  · exact slips_ok _
  · exact slips_usage _ (about_usage value (.badPolicy value) rfl)

end Conversions

section Configuration

-- The numbers that a pattern may hold are bounded, those of repetitions and those of letters.
def Outgrows (pattern : Text) : Prop :=
  Regex.Pattern.ofText pattern = .error .repetitionTooLarge ∨ Regex.Pattern.ofText pattern = .error .codePointTooWide

theorem slips_pattern (pattern : Text) : Slips (SweepConfig.checkPattern pattern) ↔ Outgrows pattern := by
  rw [SweepConfig.checkPattern, Outgrows]
  cases Regex.Pattern.ofText pattern with
  | ok compiled => simp
  | error fault => cases fault <;> simp <;> rfl

theorem slips_read_values (items : List Datum) :
    Slips (SweepConfig.readValues (.list items)) ↔
      Breaks (fun item => ∃ integer, item.toInteger = .ok integer) (fun item => item.defiesInteger = true) items := by
  have listed : (Datum.list items).elements = .ok items := rfl
  simp only [← slips_integer]
  rw [← slips_map_m_iff, SweepConfig.readValues, listed]
  by_cases given : (Datum.list items).isTruthy = true
  · rw [if_pos given]
    rfl
  · rw [if_neg given]
    cases items with
    | nil => exact iff_of_false (slips_usage _ rfl) (slips_ok [])
    | cons item rest => exact absurd rfl given

theorem slips_config (items : List Datum) (target : Path) (pattern : Text) (template : Datum) :
    Slips (SweepConfig.make (.list items) (some target) (some pattern) template) ↔
      Slips (SweepConfig.readValues (.list items)) ∨
        (∃ integers, SweepConfig.readValues (.list items) = .ok integers) ∧ Outgrows pattern := by
  rw [SweepConfig.make]
  simp only [slips_bind_iff, slips_pattern, slips_pure, and_false, exists_false, or_false, exists_and_right]

namespace Plan

def HasRequired (entries : List (Datum × Datum)) : Prop := ∀ key ∈ requiredKeys, (Datum.lookup? entries key).isSome = true

-- What a plan is configured by, before the values are made integers and the pattern is compiled.
structure Configures (entries : List (Datum × Datum)) (items : List Datum) : Prop where
  required : HasRequired entries
  target : (entry entries "target").text?.isSome = true
  values : (entry entries "values").elements = .ok items
  pattern : (entry entries "pattern").isWritable = true
  template : (entry entries "template").isWritable = true

inductive ConfigSlips (entries : List (Datum × Datum)) : Prop where
  | target : HasRequired entries → (entry entries "target").text? = none → ConfigSlips entries
  | values : HasRequired entries → (entry entries "target").text?.isSome = true →
      (entry entries "values").hasItems = false → ConfigSlips entries
  | value (items : List Datum) : Configures entries items →
      Breaks (fun item => ∃ integer, item.toInteger = .ok integer) (fun item => item.defiesInteger = true) items →
      ConfigSlips entries
  | pattern (items : List Datum) (integers : List Int) : Configures entries items →
      SweepConfig.readValues (.list items) = .ok integers → Outgrows (entry entries "pattern").toText → ConfigSlips entries

def specs (value : Datum) : Except Fault (List StepSpec) := optionalElements value >>= List.mapM stepOfDatum

def configuration (path : Path) (overridden : Bool) (entries : List (Datum × Datum)) : Except Fault SweepConfig := do
  let missing := requiredKeys.filter fun key => (Datum.lookup? entries key).isNone
  if !missing.isEmpty then throw (.missingKeys missing)
  let target ← planTarget path overridden (entry entries "target")
  let values ← (entry entries "values").elements
  let pattern ← (entry entries "pattern").written
  let template ← (entry entries "template").written
  SweepConfig.make (.list values) (some target) (some pattern) (.text template)

theorem has_required_iff (entries : List (Datum × Datum)) :
    HasRequired entries ↔ (requiredKeys.filter fun key => (Datum.lookup? entries key).isNone) = [] := by
  rw [HasRequired, List.filter_eq_nil_iff]
  simp [Option.isNone_iff_eq_none, Option.isSome_iff_ne_none]

theorem written_ok_iff (value : Datum) (text : Text) :
    value.written = .ok text ↔ value.isWritable = true ∧ value.toText = text := by
  rw [Datum.written]
  by_cases writable : value.isWritable <;> simp [writable]

theorem target_text (path : Path) (overridden : Bool) (target : Datum) :
    (∃ place, planTarget path overridden target = .ok place) ↔ target.text?.isSome = true := by
  cases target <;> simp [planTarget, Datum.path?, Datum.text?]

theorem slips_target (path : Path) (overridden : Bool) (target : Datum) :
    Slips (planTarget path overridden target) ↔ target.text? = none := by
  cases target <;> simp [planTarget, Datum.path?, Datum.text?] <;> rfl

section Reading

variable (path : Path) (overridden : Bool) {entries : List (Datum × Datum)}

theorem complete_configuration (required : HasRequired entries) :
    configuration path overridden entries = (do
      let target ← planTarget path overridden (entry entries "target")
      let values ← (entry entries "values").elements
      let pattern ← (entry entries "pattern").written
      let template ← (entry entries "template").written
      SweepConfig.make (.list values) (some target) (some pattern) (.text template)) := by
  rw [configuration, (has_required_iff entries).mp required]
  rfl

theorem incomplete_configuration (lacking : ¬ HasRequired entries) :
    ∃ keys, configuration path overridden entries = .error (.missingKeys keys) := by
  have missing := mt (has_required_iff entries).mpr lacking
  rw [configuration]
  dsimp only
  rw [if_pos (by simpa using missing)]
  exact ⟨_, rfl⟩

theorem configures_configuration {items : List Datum} (configures : Configures entries items) :
    ∃ target, configuration path overridden entries = SweepConfig.make (.list items) (some target)
      (some (entry entries "pattern").toText) (.text (entry entries "template").toText) := by
  obtain ⟨required, text, values, pattern, template⟩ := configures
  obtain ⟨target, found⟩ := (target_text path overridden _).mpr text
  refine ⟨target, ?_⟩
  rw [complete_configuration path overridden required, found, values, Datum.written, if_pos pattern, Datum.written, if_pos template]
  rfl

theorem configuration_slips (slips : Slips (configuration path overridden entries)) : ConfigSlips entries := by
  by_cases required : HasRequired entries
  · rw [complete_configuration path overridden required, slips_bind_iff, slips_target] at slips
    rcases slips with absent | ⟨target, found, slips⟩
    · exact .target required absent
    have text := (target_text path overridden _).mp ⟨target, found⟩
    rw [slips_bind_iff, slips_elements] at slips
    rcases slips with bare | ⟨items, values, slips⟩
    · exact .values required text bare
    rw [slips_bind_iff] at slips
    rcases slips with slips | ⟨_, written, slips⟩
    · exact absurd slips (slips_written _)
    obtain ⟨pattern, rfl⟩ := (written_ok_iff _ _).mp written
    rw [slips_bind_iff] at slips
    rcases slips with slips | ⟨_, written, slips⟩
    · exact absurd slips (slips_written _)
    obtain ⟨template, rfl⟩ := (written_ok_iff _ _).mp written
    rw [slips_config, slips_read_values] at slips
    rcases slips with breaks | ⟨⟨integers, read⟩, outgrows⟩
    · exact .value items ⟨required, text, values, pattern, template⟩ breaks
    · exact .pattern items integers ⟨required, text, values, pattern, template⟩ read outgrows
  · obtain ⟨keys, missing⟩ := incomplete_configuration path overridden required
    rw [missing, slips_error] at slips
    cases slips

theorem slips_configuration : Slips (configuration path overridden entries) ↔ ConfigSlips entries := by
  refine ⟨configuration_slips path overridden, fun slips => ?_⟩
  cases slips with
  | target required absent =>
      rw [complete_configuration path overridden required]
      exact slips_here ((slips_target path overridden _).mpr absent)
  | values required text bare =>
      obtain ⟨target, found⟩ := (target_text path overridden _).mpr text
      rw [complete_configuration path overridden required]
      exact slips_after found (slips_here ((slips_elements _).mpr bare))
  | value items configures breaks =>
      obtain ⟨target, made⟩ := configures_configuration path overridden configures
      rw [made, slips_config, slips_read_values]
      exact .inl breaks
  | pattern items integers configures read outgrows =>
      obtain ⟨target, made⟩ := configures_configuration path overridden configures
      rw [made, slips_config]
      exact .inr ⟨⟨integers, read⟩, outgrows⟩

end Reading

end Plan

end Configuration

section Steps

def IsPair (item : Datum) : Prop := ∃ key value, item.elements = .ok [key, value] ∧ key.isKey = true

-- An item that is not even wrong as a pair: it has no parts, or the first one of two is no key.
inductive PairSlips (item : Datum) : Prop where
  | bare : item.hasItems = false → PairSlips item
  | keyless (key value : Datum) : item.elements = .ok [key, value] → key.isKey = false → PairSlips item

inductive VariablesSlip (value : Datum) : Prop where
  | bare : value.isTruthy = true → value.unrolled.hasItems = false → VariablesSlip value
  | pair (items : List Datum) : value.isTruthy = true → value.unrolled.isMapping = false →
      value.unrolled.elements = .ok items → Breaks IsPair PairSlips items → VariablesSlip value

theorem elements_ok (value : Datum) (items : List Datum) (listed : value.elements = .ok items) :
    value.hasItems = true := by
  apply Bool.of_not_eq_false
  intro bare
  rw [← slips_elements, listed] at bare
  exact slips_ok items bare

theorem elements_error (value : Datum) (fault : Fault) (failed : value.elements = .error fault) :
    value.hasItems = false := by
  rw [Datum.elements] at failed
  rw [Datum.hasItems]
  revert failed
  cases value.unrolled <;> simp

theorem pair_holds (item : Datum) (pair : IsPair item) : ¬ PairSlips item := by
  obtain ⟨key, value, listed, hashable⟩ := pair
  intro slips
  cases slips with
  | bare bare => cases bare.symm.trans (elements_ok item _ listed)
  | keyless other value again keyless =>
      cases listed.symm.trans again
      cases keyless.symm.trans hashable

theorem slips_pairs (items : List Datum) (entries : List (Datum × Datum)) (index : Nat) :
    Slips (entriesOfItems entries index items) ↔ Breaks IsPair PairSlips items := by
  induction items generalizing entries index with
  | nil => simp [entriesOfItems]
  | cons item rest ih =>
      rw [breaks_cons]
      unfold entriesOfItems
      split
      · rename_i fault failed
        exact iff_of_true ((slips_error _).mpr rfl) (.inl (.bare (elements_error item fault failed)))
      · rename_i key value listed
        by_cases hashable : key.isKey = true
        · have pair : IsPair item := ⟨key, value, listed, hashable⟩
          rw [if_pos hashable, ih]
          simp [pair, pair_holds item pair]
        · rw [if_neg hashable]
          exact iff_of_true ((slips_error _).mpr rfl)
            (.inl (.keyless key value listed (Bool.eq_false_iff.mpr hashable)))
      · rename_i others many listed
        have unpaired (key value : Datum) : item.elements ≠ .ok [key, value] := by
          intro paired
          exact many key value (Except.ok.inj (listed.symm.trans paired))
        apply iff_of_false (slips_usage _ rfl)
        rintro (slips | ⟨⟨key, value, paired, _⟩, _⟩)
        · cases slips with
          | bare bare => cases bare.symm.trans (elements_ok item others listed)
          | keyless key value paired _ => exact unpaired key value paired
        · exact unpaired key value paired

theorem slips_variables (value : Datum) : Slips (stepVariables value) ↔ VariablesSlip value := by
  rw [stepVariables]
  by_cases truthy : value.isTruthy = true
  · rw [if_neg (by simp [truthy])]
    split
    · rename_i entries mapping
      apply iff_of_false (slips_ok _)
      intro slips
      cases slips with
      | bare _ bare =>
          rw [mapping] at bare
          cases bare
      | pair items _ other _ _ => simp [mapping, Datum.isMapping] at other
    · rename_i content unmapped
      have other : value.unrolled.isMapping = false := by
        cases same : value.unrolled <;> simp_all [Datum.isMapping]
      rw [slips_bind_iff, slips_elements]
      constructor
      · rintro (bare | ⟨items, listed, slips⟩)
        · exact .bare truthy bare
        · rw [slips_bind_iff, slips_pairs] at slips
          rcases slips with breaks | ⟨entries, _, slips⟩
          · exact .pair items truthy other listed breaks
          · exact absurd slips (slips_pure _)
      · intro slips
        cases slips with
        | bare _ bare => exact .inl bare
        | pair items _ _ listed breaks =>
            exact .inr ⟨items, listed, slips_here ((slips_pairs items [] 0).mpr breaks)⟩
  · rw [if_pos (by simp [truthy])]
    apply iff_of_false (slips_ok _)
    intro slips
    cases slips with
    | bare given _ => exact truthy given
    | pair _ given _ _ _ => exact truthy given

theorem variables_mapping (value own : Datum) (made : stepVariables value = .ok own) :
    ∃ entries, own = .map entries := by
  rw [stepVariables] at made
  split at made
  · exact ⟨[], (Except.ok.inj made).symm⟩
  · split at made
    · exact ⟨_, (Except.ok.inj made).symm⟩
    · obtain ⟨items, _, made⟩ := bind_ok made
      obtain ⟨entries, _, made⟩ := bind_ok made
      exact ⟨entries, (Except.ok.inj made).symm⟩

theorem slips_converted (entries : List (Datum × Datum)) :
    ¬ Slips (entries.mapM fun (name, value) => do return (← name.written, ← value.written)) := by
  apply slips_map_m_never
  rintro ⟨name, value⟩
  apply slips_bind_never _ _ (slips_written name)
  intro first
  apply slips_bind_never _ _ (slips_written value)
  exact fun second => slips_pure _

theorem slips_make (arguments : List Datum) (description : Datum) (cwd : Option Path) (entries : List (Datum × Datum)) :
    ¬ Slips (StepSpec.make (.list arguments) description cwd (.map entries)) := by
  have listed : (Datum.list arguments).elements = .ok arguments := rfl
  have mapped : (Datum.map entries).mapEntries = .ok entries := rfl
  rw [StepSpec.make, listed, mapped]
  split
  · apply slips_bind_never _ _ (slips_ok _)
    intro items
    apply slips_bind_never _ _ (slips_map_m_never _ _ slips_written)
    intro written
    apply slips_bind_never _ _ (slips_ok _)
    intro pairs
    apply slips_bind_never _ _ (slips_converted pairs)
    exact fun converted => slips_pure _
  · exact slips_usage _ rfl

def commandLine : Datum → Except Fault Datum
  | .text line => splitCommand line
  | command => .ok command

def stepCommand (value : Datum) : Except Fault (List Datum) := do
  let command ← commandLine value
  if command.isTruthy then command.elements else .ok []

def stepDirectory (value : Datum) : Except Fault (Option Path) :=
  if value.isTruthy then
    match value.path? with
    | some path => .ok (some path)
    | none => .error .wrongType
  else .ok none

inductive StepSlips (entries : List (Datum × Datum)) : Prop where
  | command : (Plan.entry entries "command").isTruthy = true →
      (Plan.entry entries "command").hasItems = false → StepSlips entries
  | directory (arguments : List Datum) : stepCommand (Plan.entry entries "command") = .ok arguments →
      (Plan.entry entries "cwd").isTruthy = true → (Plan.entry entries "cwd").text? = none → StepSlips entries
  | env (arguments : List Datum) (cwd : Option Path) : stepCommand (Plan.entry entries "command") = .ok arguments →
      stepDirectory (Plan.entry entries "cwd") = .ok cwd → VariablesSlip (Plan.entry entries "env") → StepSlips entries

theorem step_directory_bind {α : Type} (value : Datum) (next : Option Path → Except Fault α) :
    stepDirectory value >>= next =
      if value.isTruthy then
        match value.path? with
        | some path => pure (some path) >>= next
        | none => throw .wrongType >>= next
      else pure none >>= next := by
  rw [stepDirectory]
  split
  · split <;> rfl
  · rfl

theorem step_command_bind {α : Type} (value : Datum) (next : List Datum → Except Fault α) :
    stepCommand value >>= next =
      match value with
      | .text line => splitCommand line >>= fun command =>
          if command.isTruthy then command.elements >>= next else pure [] >>= next
      | command => pure command >>= fun command =>
          if command.isTruthy then command.elements >>= next else pure [] >>= next := by
  have each (command : Datum) :
      (if command.isTruthy then command.elements else .ok [] : Except Fault (List Datum)) >>= next =
        if command.isTruthy then command.elements >>= next else pure [] >>= next := by
    split <;> rfl
  rw [stepCommand, bind_assoc]
  simp only [each]
  cases value <;> rfl

theorem step_of_map (value : Datum) (entries : List (Datum × Datum)) (mapping : value.unrolled = .map entries) :
    stepOfDatum value = (do
      let arguments ← stepCommand (Plan.entry entries "command")
      let directory ← stepDirectory (Plan.entry entries "cwd")
      let own ← stepVariables (Plan.entry entries "env")
      StepSpec.make (.list arguments) (Plan.entry entries "description") directory own) := by
  rw [stepOfDatum, mapping]
  simp only [step_command_bind, step_directory_bind]
  rfl

theorem split_command_list (line : Text) (command : Datum) (made : splitCommand line = .ok command) :
    ∃ words, command = .list words := by
  rw [splitCommand] at made
  split at made
  · exact ⟨_, (Except.ok.inj made).symm⟩
  · cases made

theorem slips_command (value : Datum) :
    Slips (stepCommand value) ↔ value.isTruthy = true ∧ value.hasItems = false := by
  have given (command : Datum) : Slips (if command.isTruthy then command.elements else .ok []) ↔
      command.isTruthy = true ∧ command.hasItems = false := by
    by_cases truthy : command.isTruthy = true <;> simp [truthy, slips_elements]
  rw [stepCommand, slips_bind_iff]
  simp only [given]
  by_cases line : ∃ text, value = .text text
  · obtain ⟨text, rfl⟩ := line
    have listed : (Datum.text text).hasItems = true := rfl
    simp only [commandLine, slips_words, listed, Bool.true_eq_false, and_false, false_or, iff_false, not_exists]
    rintro command ⟨made, _, bare⟩
    obtain ⟨words, rfl⟩ := split_command_list text command made
    cases bare
  · have same : commandLine value = .ok value := by
      cases value <;> simp_all [commandLine]
    simp [same]

theorem slips_directory (value : Datum) : Slips (stepDirectory value) ↔ value.isTruthy = true ∧ value.text? = none := by
  rw [stepDirectory, Datum.path?]
  by_cases truthy : value.isTruthy = true
  · rw [if_pos truthy]
    cases value.text? <;> simp [truthy]
    rfl
  · simp [truthy]

theorem slips_step (value : Datum) :
    Slips (stepOfDatum value) ↔ ∃ entries, value.unrolled = .map entries ∧ StepSlips entries := by
  by_cases mapping : ∃ entries, value.unrolled = .map entries
  · obtain ⟨entries, same⟩ := mapping
    rw [step_of_map value entries same]
    constructor
    · intro slips
      refine ⟨entries, same, ?_⟩
      rw [slips_bind_iff, slips_command] at slips
      rcases slips with ⟨given, bare⟩ | ⟨arguments, command, slips⟩
      · exact .command given bare
      rw [slips_bind_iff, slips_directory] at slips
      rcases slips with ⟨given, absent⟩ | ⟨cwd, directory, slips⟩
      · exact .directory arguments command given absent
      rw [slips_bind_iff, slips_variables] at slips
      rcases slips with slips | ⟨own, read, slips⟩
      · exact .env arguments cwd command directory slips
      obtain ⟨pairs, rfl⟩ := variables_mapping _ own read
      exact absurd slips (slips_make arguments _ cwd pairs)
    · rintro ⟨others, again, slips⟩
      cases same.symm.trans again
      cases slips with
      | command given bare => exact slips_here ((slips_command _).mpr ⟨given, bare⟩)
      | directory arguments command given absent =>
          exact slips_after command (slips_here ((slips_directory _).mpr ⟨given, absent⟩))
      | env arguments cwd command directory slips =>
          exact slips_after command (slips_after directory (slips_here ((slips_variables _).mpr slips)))
  · refine iff_of_false ?_ fun ⟨entries, same, _⟩ => mapping ⟨entries, same⟩
    rw [stepOfDatum]
    split
    · rename_i line _
      rw [slips_bind_iff]
      rintro (slips | ⟨command, made, slips⟩)
      · exact slips_words line slips
      · obtain ⟨words, rfl⟩ := split_command_list line command made
        exact slips_make words .null none [] slips
    · rename_i entries same
      exact absurd ⟨entries, same⟩ mapping
    · exact slips_usage _ (about_usage value (.notAStep value) rfl)

end Steps

namespace Plan

-- A list of steps, where one is given, that has no items or breaks off at one of them.
inductive ListSlips (value : Datum) : Prop where
  | bare : value.isTruthy = true → value.hasItems = false → ListSlips value
  | step (items : List Datum) : optionalElements value = .ok items →
      Breaks (fun item => ∃ spec, stepOfDatum item = .ok spec)
        (fun item => ∃ entries, item.unrolled = .map entries ∧ StepSlips entries) items → ListSlips value

-- The entries are read in this order: what configures the plan, the steps, the setup and the variables.
inductive EntriesSlip (path : Path) (overridden : Bool) (entries : List (Datum × Datum)) : Prop where
  | config : ConfigSlips entries → EntriesSlip path overridden entries
  | steps (config : SweepConfig) : configuration path overridden entries = .ok config →
      ListSlips (entry entries "steps") → EntriesSlip path overridden entries
  | setup (config : SweepConfig) (steps : List StepSpec) : configuration path overridden entries = .ok config →
      specs (entry entries "steps") = .ok steps → ListSlips (entry entries "setup") → EntriesSlip path overridden entries
  | env (config : SweepConfig) (steps setup : List StepSpec) : configuration path overridden entries = .ok config →
      specs (entry entries "steps") = .ok steps → specs (entry entries "setup") = .ok setup →
      (entry entries "env").isTruthy = true → (entry entries "env").unrolled.isMapping = false →
      EntriesSlip path overridden entries

theorem slips_optional (value : Datum) :
    Slips (optionalElements value) ↔ value.isTruthy = true ∧ value.hasItems = false := by
  rw [optionalElements]
  by_cases truthy : value.isTruthy = true <;> simp [truthy, slips_elements]

theorem slips_specs (value : Datum) : Slips (specs value) ↔ ListSlips value := by
  rw [specs, slips_bind_iff, slips_optional]
  simp only [slips_map_m_iff, slips_step]
  constructor
  · rintro (⟨given, bare⟩ | ⟨items, listed, breaks⟩)
    · exact .bare given bare
    · exact .step items listed breaks
  · intro slips
    cases slips with
    | bare given bare => exact .inl ⟨given, bare⟩
    | step items listed breaks => exact .inr ⟨items, listed, breaks⟩

theorem slips_plan_variables (value : Datum) :
    Slips (planVariables value) ↔ value.isTruthy = true ∧ value.unrolled.isMapping = false := by
  rw [planVariables]
  by_cases truthy : value.isTruthy = true
  · rw [if_pos truthy, slips_bind_iff, slips_entries]
    constructor
    · rintro (unmapped | ⟨entries, _, slips⟩)
      · exact ⟨truthy, unmapped⟩
      · exact absurd slips (slips_bind_never _ _ (slips_converted entries) fun converted => slips_pure _)
    · exact fun slips => .inl slips.2
  · simp [truthy]

theorem of_entries_parts (path : Path) (overridden : Bool) (entries : List (Datum × Datum)) :
    ofEntries path overridden entries = (do
      let config ← configuration path overridden entries
      let steps ← specs (entry entries "steps")
      let setup ← specs (entry entries "setup")
      let env ← planVariables (entry entries "env")
      let policy ← Policy.ofDatum ((Datum.lookup? entries "policy").getD (.text Policy.failFast.name))
      return ⟨config, steps, setup, env, policy, (entry entries "restore").isTruthy⟩) := by
  rw [ofEntries, configuration]
  dsimp only
  split
  · rfl
  · simp only [bind_assoc, specs]
    rfl

theorem slips_of_entries (path : Path) (overridden : Bool) (entries : List (Datum × Datum)) :
    Slips (ofEntries path overridden entries) ↔ EntriesSlip path overridden entries := by
  rw [of_entries_parts]
  constructor
  · intro slips
    rw [slips_bind_iff, slips_configuration] at slips
    rcases slips with slips | ⟨config, configured, slips⟩
    · exact .config slips
    rw [slips_bind_iff, slips_specs] at slips
    rcases slips with slips | ⟨steps, listed, slips⟩
    · exact .steps config configured slips
    rw [slips_bind_iff, slips_specs] at slips
    rcases slips with slips | ⟨setup, prepared, slips⟩
    · exact .setup config steps configured listed slips
    rw [slips_bind_iff, slips_plan_variables] at slips
    rcases slips with ⟨given, unmapped⟩ | ⟨env, _, slips⟩
    · exact .env config steps setup configured listed prepared given unmapped
    rw [slips_bind_iff] at slips
    rcases slips with slips | ⟨policy, _, slips⟩
    · exact absurd slips (slips_policy _)
    · exact absurd slips (slips_pure _)
  · intro slips
    cases slips with
    | config slips => exact slips_here ((slips_configuration path overridden).mpr slips)
    | steps config configured slips => exact slips_after configured (slips_here ((slips_specs _).mpr slips))
    | setup config steps configured listed slips =>
        exact slips_after configured (slips_after listed (slips_here ((slips_specs _).mpr slips)))
    | env config steps setup configured listed prepared given unmapped =>
        exact slips_after configured (slips_after listed (slips_after prepared
          (slips_here ((slips_plan_variables _).mpr ⟨given, unmapped⟩))))

def given (overrides : List (Text × Datum)) : List (Text × Datum) :=
  overrides.filter fun entry =>
    match entry.2 with
    | .null => false
    | _ => true

def givesTarget (overrides : List (Text × Datum)) : Bool := (given overrides).any fun entry => entry.1 == "target"

-- What a plan is made of: the entries of a document and over them the overrides. Only a map has entries; of a document
-- without a value there are none.
def contents (overrides : List (Text × Datum)) (document : Datum) : Option (List (Datum × Datum)) :=
  match (override (given overrides) document).unrolled with
  | .null => some (overrideEntries (given overrides) [])
  | .map entries => some entries
  | _ => none

-- How the loading of a plan fails by a fault that is no complaint about the input: the path is too long for a name or
-- leads to a directory, the text is no document, or something is wrong with the kinds of its values.
inductive LoadSlips (read : List Char → Except Fault Datum) (tree : FileTree) (path : Path)
    (overrides : List (Text × Datum)) : Prop where
  | name (text : Text) : tree.find path = .error (.system .nameTooLong text) → LoadSlips read tree path overrides
  | directory : tree.find path = .ok .directory → LoadSlips read tree path overrides
  | document (bytes : List UInt8) (executable : Bool) (text : List Char) (fault : Fault) :
      tree.find path = .ok (.file bytes executable) → Utf8.decode bytes = .ok text →
      read (unifyLineEnds text) = .error fault → fault.isUsage = false → LoadSlips read tree path overrides
  | entries (document : Datum) (entries : List (Datum × Datum)) : readDocument tree path read = .ok document →
      contents overrides document = some entries → EntriesSlip path (givesTarget overrides) entries →
      LoadSlips read tree path overrides

theorem of_datum_contents (path : Path) (overrides : List (Text × Datum)) (document : Datum) :
    ofDatum path overrides document =
      match contents overrides document with
      | some entries => ofEntries path (givesTarget overrides) entries
      | none => .error (.planNotAMapping path.text) := by
  rw [ofDatum, contents]
  change (match (override (given overrides) document).unrolled with
    | .null => ofEntries path (givesTarget overrides) (overrideEntries (given overrides) [])
    | .map entries => ofEntries path (givesTarget overrides) entries
    | _ => .error (.planNotAMapping path.text)) = _
  cases (override (given overrides) document).unrolled <;> rfl

theorem slips_of_datum (path : Path) (overrides : List (Text × Datum)) (document : Datum) :
    Slips (ofDatum path overrides document) ↔
      ∃ entries, contents overrides document = some entries ∧ EntriesSlip path (givesTarget overrides) entries := by
  rw [of_datum_contents]
  cases contents overrides document with
  | none =>
      simp
      rfl
  | some entries => simp [slips_of_entries]

section Loading

variable (read : List Char → Except Fault Datum) (tree : FileTree) (path : Path) (overrides : List (Text × Datum))

theorem slips_document (bytes : List UInt8) (executable : Bool) (file : tree.find path = .ok (.file bytes executable)) :
    Slips (readDocument tree path read) ↔
      ∃ text fault, Utf8.decode bytes = .ok text ∧ read (unifyLineEnds text) = .error fault ∧ fault.isUsage = false := by
  have stored : tree.read path = .ok bytes := by
    rw [FileTree.read, file]
    rfl
  rw [readDocument, stored]
  dsimp only
  cases Utf8.decode bytes with
  | error cause =>
      simp
      rfl
  | ok text => simp [Slips]

theorem found_slips (entry : Entry) (found : tree.find path = .ok entry) :
    Slips (loadWith read tree path overrides) ↔ Slips (readDocument tree path read) ∨
      ∃ document, readDocument tree path read = .ok document ∧ Slips (ofDatum path overrides document) := by
  rw [loadWith, found]
  exact slips_bind_iff (readDocument tree path read) (ofDatum path overrides)

theorem load_slips (slips : Slips (loadWith read tree path overrides)) : LoadSlips read tree path overrides := by
  cases found : tree.find path with
  | ok entry =>
      cases entry with
      | directory => exact .directory found
      | file bytes executable =>
          rw [found_slips read tree path overrides _ found, slips_document read tree path bytes executable found] at slips
          rcases slips with ⟨text, fault, decoded, failed, foreign⟩ | ⟨document, loaded, slips⟩
          · exact .document bytes executable text fault found decoded failed foreign
          · obtain ⟨entries, listed, slips⟩ := (slips_of_datum path overrides document).mp slips
            exact .entries document entries loaded listed slips
  | error fault =>
      rw [loadWith, found] at slips
      split at slips
      · rename_i entry other
        cases other
      · rename_i text same
        cases same
        exact .name text found
      · exact absurd slips (slips_usage _ rfl)

theorem load_slips_iff : Slips (loadWith read tree path overrides) ↔ LoadSlips read tree path overrides := by
  refine ⟨load_slips read tree path overrides, fun slips => ?_⟩
  cases slips with
  | name text long =>
      rw [loadWith, long]
      exact (slips_error _).mpr rfl
  | directory found =>
      have refused : readDocument tree path read = .error (.system .isDirectory path.text) := by
        rw [readDocument, FileTree.read, found]
        rfl
      rw [found_slips read tree path overrides _ found, refused]
      exact .inl ((slips_error _).mpr rfl)
  | document bytes executable text fault found decoded failed foreign =>
      rw [found_slips read tree path overrides _ found]
      exact .inl ((slips_document read tree path bytes executable found).mpr ⟨text, fault, decoded, failed, foreign⟩)
  | entries document entries loaded listed slips =>
      have found : ∃ entry, tree.find path = .ok entry := by
        cases found : tree.find path with
        | ok entry => exact ⟨entry, rfl⟩
        | error fault =>
            rw [readDocument, FileTree.read, found] at loaded
            cases loaded
      obtain ⟨entry, found⟩ := found
      rw [found_slips read tree path overrides entry found]
      exact .inr ⟨document, loaded, (slips_of_datum path overrides document).mpr ⟨entries, listed, slips⟩⟩

end Loading

end Plan

end ConstantSweep.Sweep

namespace ConstantSweep.CommandLine

open ConstantSweep.Signal
open ConstantSweep.Sweep
open ConstantSweep.Text

theorem faulty_plan_code {σ : Type} (read : List Char → Except Fault Datum) (surroundings : Surroundings σ)
    (options : SweepOptions) (path : Path) (extras : Extras) (forwarder : Forwarder) (state : σ) (fault : Fault)
    (planned : options.plan = some path) (made : Extras.ofOptions options = .ok extras)
    (failed : Plan.loadWith read (surroundings.disk state).tree path (overrides options extras.values) = .error fault) :
    (runSweepWith read surroundings options forwarder state).verdict.code = if fault.isUsage then 2 else 1 := by
  have built : buildPlanWith (Plan.loadWith read (surroundings.disk state).tree) options = .error fault := by
    rw [buildPlanWith, made, planned]
    change ((Plan.loadWith read (surroundings.disk state).tree path (overrides options extras.values)).map
      (extend options extras)).bind requireSteps = _
    rw [failed]
    rfl
  rw [runSweepWith, built]
  dsimp only
  cases fault.isUsage <;> rfl

-- A plan is loaded, or refused by a fault of usage, exactly if nothing slips; and of the plans that are not loaded the
-- program says so with the code of usage exactly if nothing slips.
theorem plan_settles_iff (read : List Char → Except Fault Datum) (tree : FileTree) (path : Path)
    (given : List (Text × Datum)) :
    (((∃ plan, Plan.loadWith read tree path given = .ok plan) ∨
        ∃ fault, Plan.loadWith read tree path given = .error fault ∧ fault.isUsage = true) ↔
      ¬ Plan.LoadSlips read tree path given) ∧
    ∀ (σ : Type) (surroundings : Surroundings σ) (options : SweepOptions) (extras : Extras) (forwarder : Forwarder)
      (state : σ) (fault : Fault), options.plan = some path → Extras.ofOptions options = .ok extras →
      Plan.loadWith read (surroundings.disk state).tree path (overrides options extras.values) = .error fault →
      ((runSweepWith read surroundings options forwarder state).verdict.code = 2 ↔
        ¬ Plan.LoadSlips read (surroundings.disk state).tree path (overrides options extras.values)) := by
  refine ⟨?_, ?_⟩
  · rw [settles_unless_slips, Plan.load_slips_iff]
  · intro σ surroundings options extras forwarder state fault planned made failed
    rw [faulty_plan_code read surroundings options path extras forwarder state fault planned made failed,
      ← Plan.load_slips_iff, failed, slips_error]
    cases fault.isUsage <;> simp

namespace Sample

-- A plan file without a word in it, and a command line that names nothing else.
def wordless : Stage := ⟨⟨⟨[(["p.yaml"], .file [] false)]⟩, [], []⟩, ⟨[], Sweep.Sample.silent⟩⟩

def naming : SweepOptions :=
  ⟨some (Path.ofText "p.yaml"), none, none, none, none, [], [], none, none, [], false, false, false, none⟩

def unnamed : Extras := ⟨none, [], [], []⟩

def counted : Datum :=
  .map [(.text "values", .int 5), (.text "target", .text "c.txt"), (.text "pattern", .text "X"),
    (.text "template", .text "X=\x7bv\x7d"), (.text "steps", .list [.text "a"])]

end Sample

theorem plan_settles_iff_once :
    ∃ fault, Plan.loadWith Yaml.load Sample.wordless.disk.tree (Path.ofText "p.yaml") (overrides Sample.naming none) =
        .error fault ∧
      Extras.ofOptions Sample.naming = .ok Sample.unnamed ∧
      (runSweepWith Yaml.load Sample.surroundings Sample.naming Sample.forwarder Sample.wordless).verdict.code = 2 ∧
      ¬ Plan.LoadSlips Yaml.load Sample.wordless.disk.tree (Path.ofText "p.yaml") (overrides Sample.naming none) := by
  have code : (runSweepWith Yaml.load Sample.surroundings Sample.naming Sample.forwarder
      Sample.wordless).verdict.code = 2 := by
    decide +kernel
  have failing : (Plan.loadWith Yaml.load Sample.wordless.disk.tree (Path.ofText "p.yaml")
      (overrides Sample.naming none)).isOk = false := by
    decide +kernel
  cases failed : Plan.loadWith Yaml.load Sample.wordless.disk.tree (Path.ofText "p.yaml")
      (overrides Sample.naming none) with
  | ok plan =>
      rw [failed] at failing
      cases failing
  | error fault =>
      have settled := (plan_settles_iff Yaml.load Sample.wordless.disk.tree (Path.ofText "p.yaml") []).2 Stage
        Sample.surroundings Sample.naming Sample.unnamed Sample.forwarder Sample.wordless fault rfl rfl failed
      exact ⟨fault, rfl, rfl, code, settled.mp code⟩

-- A plan that is refused, and not for what it is.
theorem counted_values_slip : ∃ fault, Sample.loadOf Sample.counted = .error fault ∧ fault.isUsage = false := by
  have known : (match Sample.loadOf Sample.counted with
      | .ok _ => true
      | .error fault => fault.isUsage) = false := by
    decide +kernel
  cases failed : Sample.loadOf Sample.counted with
  | ok plan =>
      rw [failed] at known
      cases known
  | error fault =>
      rw [failed] at known
      exact ⟨fault, rfl, known⟩

end ConstantSweep.CommandLine

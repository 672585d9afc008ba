import ConstantSweep.Proofs.Template
import ConstantSweep.Proofs.Variables

set_option autoImplicit false

namespace ConstantSweep.Sweep

open ConstantSweep.Text

def Writes (value : Option Int) : Prop := ∀ number, value = some number → Text.isWritable number = true

theorem writes_some (number : Int) (writable : Text.isWritable number = true) : Writes (some number) := by
  rintro other same
  cases same
  exact writable

section Fields

variable (value : Option Int)

theorem render_written (writes : Writes value) (text : Text) :
    (Datum.text text).render value = .ok (.text (Template.render text value)) := by
  cases value with
  | none => rfl
  | some number => rw [Datum.render, if_pos (writes number rfl)]

theorem render_unwritten (number : Int) (unwritable : Text.isWritable number = false) (text : Text) :
    (Datum.text text).render (some number) = .error (.integer .unwritable) := by
  rw [Datum.render, unwritable, if_neg Bool.false_ne_true]

theorem render_variables_written (writes : Writes value) (env : Env) :
    renderVariables (CommonEnv.ofEnv env) value = .ok (CommonEnv.ofEnv (filled env value)) := by
  rw [renderVariables, map_m_iff, CommonEnv.ofEnv, filled, CommonEnv.ofEnv, List.forall₂_map_left_iff,
    List.forall₂_map_right_iff, List.forall₂_map_right_iff, List.forall₂_same]
  intro entry _
  dsimp only
  rw [render_written value writes]
  rfl

theorem render_command_written (writes : Writes value) (command : List Text) :
    command.mapM (renderArgument value) = .ok (command.map fun argument => Template.render argument value) := by
  rw [map_m_iff, List.forall₂_map_right_iff, List.forall₂_same]
  intro argument _
  rw [renderArgument, render_written value writes]
  rfl

theorem filled_set (env : Env) (name text : Text) :
    (filled env value).set name (Template.render text value) = filled (env.set name text) value := by
  induction env with
  | nil => rfl
  | cons entry rest ih =>
      rw [filled, List.map_cons, Env.set, Env.set]
      split
      · rfl
      · rw [← filled, ih]
        rfl

theorem filled_update (env changes : Env) :
    (filled env value).update (filled changes value) = filled (env.update changes) value := by
  induction changes generalizing env with
  | nil => rfl
  | cons change rest ih =>
      change ((filled env value).set change.1 (Template.render change.2 value)).update (filled rest value) = _
      rw [filled_set, ih]
      rfl

end Fields

-- The description with the value put into it; an empty one counts as none.
def StepSpec.described (spec : StepSpec) (value : Option Int) : Except Fault Datum :=
  if spec.description.isTruthy then spec.description.render value else .ok .null

-- The command with the value put into it, and with the description that is made of its own.
def StepSpec.filled (spec : StepSpec) (common : Env) (value : Option Int) (description : Datum) : Step where
  command := spec.command.map fun argument => Template.render argument value
  cwd := spec.cwd
  env := CommonEnv.ofEnv (Sweep.filled (common.update spec.env) value)
  description := description

theorem instantiate_written (spec : StepSpec) (common : Env) (value : Option Int) (writes : Writes value) :
    spec.instantiate (CommonEnv.ofEnv common) value = (spec.described value).map (spec.filled common value) := by
  have merged : setVariables (CommonEnv.ofEnv (filled common value)) (CommonEnv.ofEnv (filled spec.env value)) =
      CommonEnv.ofEnv (filled (common.update spec.env) value) := by
    rw [set_variables_of_env, filled_update]
  rw [StepSpec.instantiate, render_variables_written value writes, render_variables_written value writes,
    render_command_written value writes, StepSpec.described]
  split
  · cases rendered : spec.description.render value with
    | error fault => rfl
    | ok description => exact congrArg (fun env => Except.ok (Step.mk _ _ env _)) merged
  · exact congrArg (fun env => Except.ok (Step.mk _ _ env _)) merged

theorem instantiate_unwritten (spec : StepSpec) (common : CommonEnv) (number : Int) (command : spec.command ≠ [])
    (unwritable : Text.isWritable number = false) (step : Step) : spec.instantiate common (some number) ≠ .ok step := by
  intro made
  rw [StepSpec.instantiate] at made
  obtain ⟨_, _, made⟩ := bind_ok made
  obtain ⟨_, _, made⟩ := bind_ok made
  obtain ⟨arguments, rendered, _⟩ := bind_ok made
  obtain ⟨first, rest, some⟩ := List.exists_cons_of_ne_nil command
  rw [some, List.mapM_cons, renderArgument, render_unwritten number unwritable] at rendered
  cases rendered

theorem steps_written (specs : List StepSpec) (common : CommonEnv) (number : Int) (steps : List Step)
    (commands : ∀ spec ∈ specs, spec.command ≠ []) (made : stepsFor specs common (some number) = .ok steps) :
    specs = [] ∨ Text.isWritable number = true := by
  cases specs with
  | nil => exact .inl rfl
  | cons spec rest =>
      rw [stepsFor, List.mapM_cons] at made
      obtain ⟨step, first, _⟩ := bind_ok made
      cases writable : Text.isWritable number with
      | true => exact .inr rfl
      | false =>
          exact absurd first (instantiate_unwritten spec common number (commands spec (List.mem_cons_self ..)) writable step)

-- A text with the number in place of every placeholder of its template, and with no placeholder in it.
structure Renders (number : Int) (template text : Text) : Prop where
  substituted : Template.Substitutes (Template.placeholders.map Text.toList) (Text.ofString (toString number)).toList
    template.toList text.toList
  noneLeft : ∀ placeholder ∈ Template.placeholders, ¬ placeholder.toList <:+: text.toList

inductive FillsDescription (number : Int) : Datum → Datum → Prop where
  | absent (description : Datum) : description.isTruthy = false → FillsDescription number description .null
  | text (template text : Text) : Renders number template text → FillsDescription number (.text template) (.text text)

-- A step with the number in all that its specification says, the directory apart.
structure FillsFields (common : Env) (number : Int) (spec : StepSpec) (step : Step) : Prop where
  command : List.Forall₂ (Renders number) spec.command step.command
  description : FillsDescription number spec.description step.description
  env : List.Forall₂ (fun entry made => made.1 = entry.1 ∧ ∃ text, made.2 = .text text ∧ Renders number entry.2 text)
    (common.update spec.env) step.env

structure Fills (common : Env) (number : Int) (spec : StepSpec) (step : Step) : Prop
    extends FillsFields common number spec step where
  cwd : Option.Rel (fun template path => Renders number template.text path.text) spec.cwd step.cwd

structure StepSpec.IsTextual (spec : StepSpec) : Prop where
  command : spec.command ≠ []
  description : spec.description = .null ∨ ∃ text, spec.description = .text text

theorem render_renders (number : Int) (template : Text) : Renders number template (Template.render template (some number)) :=
  ⟨Template.fill_substitutes template number, Template.fill_leaves_none template number⟩

theorem textual_fills (spec : StepSpec) (textual : spec.IsTextual) (common : Env) (number : Int)
    (writable : Text.isWritable number = true) :
    ∃ step, spec.instantiate (CommonEnv.ofEnv common) (some number) = .ok step ∧ FillsFields common number spec step ∧
      step.cwd = spec.cwd := by
  have writes := writes_some number writable
  obtain ⟨description, described, describes⟩ :
      ∃ description, spec.described (some number) = .ok description ∧ FillsDescription number spec.description description := by
    rw [StepSpec.described]
    split
    · rename_i given
      rcases textual.description with absent | ⟨text, same⟩
      · rw [absent] at given
        cases given
      · rw [same]
        exact ⟨_, render_written _ writes text, .text text _ (render_renders number text)⟩
    · rename_i missing
      exact ⟨.null, rfl, .absent _ (Bool.eq_false_iff.mpr missing)⟩
  refine ⟨spec.filled common (some number) description, ?_, ⟨?_, describes, ?_⟩, rfl⟩
  · rw [instantiate_written spec common _ writes, described]
    rfl
  · rw [StepSpec.filled, List.forall₂_map_right_iff, List.forall₂_same]
    exact fun argument _ => render_renders number argument
  · rw [StepSpec.filled, CommonEnv.ofEnv, filled, List.forall₂_map_right_iff, List.forall₂_map_right_iff,
      List.forall₂_same]
    exact fun entry _ => ⟨rfl, _, rfl, render_renders number entry.2⟩

-- The commands for a number are made if it can be written. All is filled but the directories, which stay as they are; so
-- they are filled exactly if they have nothing to be filled.
theorem steps_filled_iff (specs : List StepSpec) (common : Env) (number : Int)
    (textual : ∀ spec ∈ specs, spec.IsTextual) :
    (specs = [] ∨ Text.isWritable number = true → ∃ steps, stepsFor specs (CommonEnv.ofEnv common) (some number) = .ok steps ∧
      List.Forall₂ (fun spec step => FillsFields common number spec step ∧ step.cwd = spec.cwd) specs steps) ∧
    ((∃ steps, stepsFor specs (CommonEnv.ofEnv common) (some number) = .ok steps ∧
        List.Forall₂ (Fills common number) specs steps) ↔
      (specs = [] ∨ Text.isWritable number = true) ∧ ∀ spec ∈ specs, ∀ path, spec.cwd = some path →
        ∀ placeholder ∈ Template.placeholders, ¬ placeholder.toList <:+: path.text.toList) := by
  have each (writes : specs = [] ∨ Text.isWritable number = true) (spec : StepSpec) (member : spec ∈ specs) :
      ∃ step, spec.instantiate (CommonEnv.ofEnv common) (some number) = .ok step ∧ FillsFields common number spec step ∧
        step.cwd = spec.cwd := by
    rcases writes with rfl | writable
    · cases member
    · exact textual_fills spec (textual spec member) common number writable
  refine ⟨fun writes => map_m_related _ _ specs (each writes), ?_, ?_⟩
  · rintro ⟨steps, made, fills⟩
    have writes := steps_written specs _ number steps (fun spec member => (textual spec member).command) made
    refine ⟨writes, ?_⟩
    intro spec member path given
    obtain ⟨step, instance_, filled⟩ := related_left
      (List.Forall₂.mp (fun _ _ => And.intro) ((map_m_iff _ specs steps).mp made) fills) spec member
    obtain ⟨same, again, _, place⟩ := each writes spec member
    obtain rfl : step = same := Except.ok.inj (instance_.symm.trans again)
    have cwd := filled.cwd
    rw [place, given] at cwd
    cases cwd with
    | some renders => exact renders.noneLeft
  · rintro ⟨writes, plain⟩
    apply map_m_related
    intro spec member
    obtain ⟨step, made, fields, place⟩ := each writes spec member
    refine ⟨step, made, fields, ?_⟩
    rw [place]
    cases given : spec.cwd with
    | none => exact .none
    | some path =>
        have none := plain spec member path given
        refine .some ⟨Template.substitutes_none _ ?_, none⟩
        intro pattern listed
        obtain ⟨placeholder, one, rfl⟩ := List.mem_map.mp listed
        exact none placeholder one

namespace Sample

def sharing : Env := [("SECTORS", "\x7bv\x7d")]

def sealing : StepSpec :=
  ⟨["a", "--sectors", "\x7bv\x7d"], .text "n=\x7bvalue\x7d", some (Path.ofText "d"), [("N", "\x7b\x7bv\x7d\x7d")]⟩

def placed : StepSpec := ⟨["a"], .null, some (Path.ofText "d\x7bv\x7d"), []⟩

end Sample

theorem steps_filled_iff_once :
    (∀ spec ∈ [Sample.sealing], spec.IsTextual) ∧
      ∃ steps, stepsFor [Sample.sealing] (CommonEnv.ofEnv Sample.sharing) (some 8) = .ok steps ∧
        List.Forall₂ (Fills Sample.sharing 8) [Sample.sealing] steps := by
  have textual : ∀ spec ∈ [Sample.sealing], spec.IsTextual :=
    List.forall_mem_singleton.mpr ⟨List.cons_ne_nil _ _, .inr ⟨_, rfl⟩⟩
  refine ⟨textual, (steps_filled_iff [Sample.sealing] Sample.sharing 8 textual).2.mpr ⟨.inr (by decide +kernel), ?_⟩⟩
  rw [List.forall_mem_singleton]
  rintro path given placeholder listed
  cases given
  revert placeholder
  decide +kernel

-- A directory is passed on as it is.
theorem directory_is_not_filled :
    ∃ step path, stepsFor [Sample.placed] (CommonEnv.ofEnv []) (some 2) = .ok [step] ∧ step.cwd = some path ∧
      Text.toList "\x7bv\x7d" <:+: path.text.toList := by
  have writes : Writes (some 2) := writes_some 2 (by decide +kernel)
  refine ⟨Sample.placed.filled [] (some 2) .null, Path.ofText "d\x7bv\x7d", ?_, rfl, ?_⟩
  · rw [stepsFor, List.mapM_cons, instantiate_written Sample.placed [] (some 2) writes]
    rfl
  · exact ⟨['d'], [], by decide +kernel⟩

end ConstantSweep.Sweep

import ConstantSweep.Datum.Conversion
import ConstantSweep.Env

set_option autoImplicit false

namespace ConstantSweep.Sweep

structure StepSpec where
  command : List Text
  description : Datum
  cwd : Option Path
  env : Env
  deriving Repr

namespace StepSpec

def make (command description : Datum) (cwd : Option Path) (env : Datum) : Except Fault StepSpec :=
  if command.isTruthy then do
    let arguments ← (← command.elements).mapM Datum.written
    let entries ← env.mapEntries
    let converted ← entries.mapM fun (name, value) => do return (← name.written, ← value.written)
    return ⟨arguments, description, cwd, .ofEntries converted⟩
  else .error .emptyCommand

end StepSpec

structure Step where
  command : List Text
  cwd : Option Path
  env : List (Text × Datum)
  description : Datum
  deriving Repr

namespace Step

def label (step : Step) : Except Fault Text :=
  if step.description.isTruthy then step.description.written else .ok (Text.intercalate " " step.command)

end Step

abbrev CommonEnv := List (Text × Datum)

def CommonEnv.ofEnv (env : Env) : CommonEnv := env.map fun (name, value) => (name, .text value)

def setVariable (env : List (Text × Datum)) (name : Text) (value : Datum) : List (Text × Datum) :=
  match env with
  | [] => [(name, value)]
  | (other, old) :: rest =>
      if other == name then (name, value) :: rest else (other, old) :: setVariable rest name value

def renderVariables (env : List (Text × Datum)) (value : Option Int) :
    Except Fault (List (Text × Datum)) :=
  env.mapM fun (name, template) => (template.render value).map fun text => (name, text)

def renderArgument (value : Option Int) (argument : Text) : Except Fault Text :=
  ((Datum.text argument).render value).map Datum.toText

-- The command for a value: the placeholders of arguments, description and variables are replaced; its
-- own variables override the common ones; the directory stays as it is.
def StepSpec.instantiate (spec : StepSpec) (common : CommonEnv) (value : Option Int) : Except Fault Step := do
  let env ← renderVariables common value
  let own ← renderVariables (CommonEnv.ofEnv spec.env) value
  let command ← spec.command.mapM (renderArgument value)
  let description ←
    if spec.description.isTruthy then spec.description.render value else pure Datum.null
  return {
    command := command
    cwd := spec.cwd
    env := own.foldl (fun env (name, text) => setVariable env name text) env
    description := description }

def stepsFor (specs : List StepSpec) (common : CommonEnv) (value : Option Int) : Except Fault (List Step) :=
  specs.mapM fun spec => spec.instantiate common value

end ConstantSweep.Sweep

import ConstantSweep.CommandLine.Invocation
import ConstantSweep.Sweep.Plan
import ConstantSweep.Sweep.Values

set_option autoImplicit false

namespace ConstantSweep.CommandLine

open ConstantSweep.Sweep

structure Extras where
  values : Option (List Int)
  env : Env
  steps : List StepSpec
  setup : List StepSpec
  deriving Repr

def textOrNull (text : Option Text) : Datum :=
  match text with
  | none => .null
  | some text => .text text

def commandSpec (options : SweepOptions) (command : Datum) (description : Datum) : Except Fault StepSpec :=
  StepSpec.make command description options.cwd (.map [])

def setupSpec (options : SweepOptions) (line : Text) : Except Fault StepSpec := do
  commandSpec options (← splitCommand line) .null

-- The first fault among values, variables, the command and the setup, in this order, is reported.
def Extras.ofOptions (options : SweepOptions) : Except Fault Extras := do
  let values ← options.values.mapM readValues
  let env ← Env.ofOverrides options.env
  let steps ←
    if options.command.isEmpty then pure []
    else (commandSpec options (.list (options.command.map .text)) (textOrNull options.description)).map fun spec =>
      [spec]
  let setup ← options.setup.mapM (setupSpec options)
  return ⟨values, env, steps, setup⟩

def valuesOrNull (values : Option (List Int)) : Datum :=
  match values with
  | none => .null
  | some values => .list (values.map .int)

def overrides (options : SweepOptions) (values : Option (List Int)) : List (Text × Datum) :=
  [("values", valuesOrNull values), ("target", textOrNull (options.target.map Path.text)),
   ("pattern", textOrNull options.pattern), ("template", textOrNull options.template)]

def chosenPolicy (options : SweepOptions) (policy : Policy) : Policy :=
  if options.goesOn then .goOn else policy

def extend (options : SweepOptions) (extras : Extras) (plan : Plan) : Plan :=
  { plan with
    steps := plan.steps ++ extras.steps
    setup := plan.setup ++ extras.setup
    env := plan.env.update extras.env
    policy := chosenPolicy options plan.policy
    restore := plan.restore || options.restore }

def missingOptions (options : SweepOptions) : List String :=
  [("--sweep-values", options.values.isNone), ("--config-file", options.target.isNone),
   ("--pattern", options.pattern.isNone), ("--template", options.template.isNone)].filterMap fun entry =>
    if entry.2 then some entry.1 else none

def planOfOptions (options : SweepOptions) (extras : Extras) : Except Fault Plan := do
  match missingOptions options with
  | [] =>
      let config ← SweepConfig.make (valuesOrNull extras.values) options.target options.pattern
        (textOrNull options.template)
      return {
        config := config
        steps := extras.steps
        setup := extras.setup
        env := extras.env
        policy := chosenPolicy options .failFast
        restore := options.restore }
  | missing => throw (.missingOptions missing)

def requireSteps (plan : Plan) : Except Fault Plan :=
  if plan.steps.isEmpty then .error .noCommand else .ok plan

-- The plan of the options alone, or the one that `load` finds in a file and that they override and extend.
def buildPlanWith (load : Path → List (Text × Datum) → Except Fault Plan) (options : SweepOptions) :
    Except Fault Plan := do
  let extras ← Extras.ofOptions options
  let plan ← match options.plan with
    | some path => (load path (overrides options extras.values)).map (extend options extras)
    | none => planOfOptions options extras
  requireSteps plan

end ConstantSweep.CommandLine

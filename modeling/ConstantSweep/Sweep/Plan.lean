import ConstantSweep.FileTree
import ConstantSweep.Sweep.Config
import ConstantSweep.Sweep.Step
import ConstantSweep.Text.Lines
import ConstantSweep.Text.Words
import ConstantSweep.Yaml.Document

set_option autoImplicit false

namespace ConstantSweep.Sweep

open ConstantSweep.Text

inductive Policy where
  | failFast
  | goOn
  deriving DecidableEq, Repr

namespace Policy

def name : Policy → String
  | .failFast => "fail_fast"
  | .goOn => "continue"

def ofDatum (value : Datum) : Except Fault Policy :=
  match [failFast, goOn].find? fun policy => value.sameKey (.text policy.name) with
  | some policy => .ok policy
  | none => .error (value.faultAbout (.badPolicy value))

end Policy

structure Plan where
  config : SweepConfig
  steps : List StepSpec
  setup : List StepSpec
  env : Env
  policy : Policy
  restore : Bool
  deriving Repr

def splitCommand (line : Text) : Except Fault Datum :=
  match words line with
  | .ok words => .ok (.list (words.map .text))
  | .error fault => .error (.words fault)

def entriesOfItems (entries : List (Datum × Datum)) : Nat → List Datum → Except Fault (List (Datum × Datum))
  | _, [] => .ok entries
  | index, item :: items =>
      match item.elements with
      | .error _ => .error .wrongType
      | .ok [key, value] =>
          if key.isKey then entriesOfItems (Datum.insert entries key value) (index + 1) items
          else .error .wrongType
      | .ok others => .error (.badPair index others.length)

def stepVariables (value : Datum) : Except Fault Datum :=
  if !value.isTruthy then .ok (.map [])
  else match value.unrolled with
    | .map entries => .ok (.map entries)
    | value => do return .map (← entriesOfItems [] 0 (← value.elements))

-- A step: a command line, or a map with a command, a description, a directory and variables.
def stepOfDatum (value : Datum) : Except Fault StepSpec :=
  match value.unrolled with
  | .text line => do StepSpec.make (← splitCommand line) .null none (.map [])
  | .map entries => do
      let get (name : String) : Datum := (Datum.lookup? entries name).getD .null
      let command ← match get "command" with
        | .text line => splitCommand line
        | command => pure command
      let arguments ← if command.isTruthy then command.elements else pure []
      let directory ←
        if (get "cwd").isTruthy then
          match (get "cwd").path? with
          | some path => pure (some path)
          | none => throw .wrongType
        else pure none
      StepSpec.make (.list arguments) (get "description") directory (← stepVariables (get "env"))
  | _ => .error (value.faultAbout (.notAStep value))

def optionalElements (value : Datum) : Except Fault (List Datum) :=
  if value.isTruthy then value.elements else .ok []

def planVariables (value : Datum) : Except Fault Env :=
  if value.isTruthy then do
    let entries ← value.mapEntries
    return .ofEntries (← entries.mapM fun (name, value) => do return (← name.written, ← value.written))
  else .ok []

def requiredKeys : List Text := ["values", "target", "pattern", "template"]

-- The target of a plan. One that is written in the document is relative to the document's directory,
-- one that overrides it is not.
def planTarget (path : Path) (overridden : Bool) (target : Datum) : Except Fault Path :=
  match target.path? with
  | none => .error .wrongType
  | some target => .ok (if overridden then target else path.parent.join target)

namespace Plan

def ofEntries (path : Path) (overridden : Bool) (entries : List (Datum × Datum)) : Except Fault Plan := do
  let missing := requiredKeys.filter fun key => (Datum.lookup? entries key).isNone
  if !missing.isEmpty then throw (.missingKeys missing)
  let get (name : String) : Datum := (Datum.lookup? entries name).getD .null
  let target ← planTarget path overridden (get "target")
  let values ← (get "values").elements
  let pattern ← (get "pattern").written
  let template ← (get "template").written
  let config ← SweepConfig.make (.list values) (some target) (some pattern) (.text template)
  let steps ← (← optionalElements (get "steps")).mapM stepOfDatum
  let setup ← (← optionalElements (get "setup")).mapM stepOfDatum
  let env ← planVariables (get "env")
  let policy ← Policy.ofDatum ((Datum.lookup? entries "policy").getD (.text Policy.failFast.name))
  return ⟨config, steps, setup, env, policy, (get "restore").isTruthy⟩

def overrideEntries (given : List (Text × Datum)) (entries : List (Datum × Datum)) :
    List (Datum × Datum) :=
  given.foldl (fun entries entry => Datum.insert entries (.text entry.1) entry.2) entries

-- Overrides entries of a map. Where the map stands inside itself they are overridden as well.
def override (given : List (Text × Datum)) : Datum → Datum
  | .map entries => .map (overrideEntries given entries)
  | .loop label body => .loop label (override given body)
  | value => value

def ofDatum (path : Path) (overrides : List (Text × Datum)) (document : Datum) : Except Fault Plan :=
  let given := overrides.filter fun entry =>
    match entry.2 with
    | .null => false
    | _ => true
  let overridden := given.any fun entry => entry.1 == "target"
  match (override given document).unrolled with
  | .null => ofEntries path overridden (overrideEntries given [])
  | .map entries => ofEntries path overridden entries
  | _ => .error (.planNotAMapping path.text)

def readDocument (tree : FileTree) (path : Path) (read : List Char → Except Fault Datum) :
    Except Fault Datum :=
  match tree.read path with
  | .error fault => .error fault
  | .ok bytes =>
      match Utf8.decode bytes with
      | .error fault => .error (.decoding fault)
      | .ok text => read (unifyLineEnds text)

def loadWith (read : List Char → Except Fault Datum) (tree : FileTree) (path : Path)
    (overrides : List (Text × Datum)) : Except Fault Plan :=
  match tree.find path with
  | .ok _ => (readDocument tree path read).bind (ofDatum path overrides)
  | .error (.system .nameTooLong text) => .error (.system .nameTooLong text)
  | .error _ => .error (.planNotFound path.text)

def load (tree : FileTree) (path : Path) (overrides : List (Text × Datum)) : Except Fault Plan :=
  loadWith Yaml.load tree path overrides

end Plan

end ConstantSweep.Sweep

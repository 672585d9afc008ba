import ConstantSweep.CommandLine.Options
import ConstantSweep.FileTree

set_option autoImplicit false

namespace ConstantSweep.CommandLine

structure SweepOptions where
  plan : Option Path
  values : Option Text
  target : Option Path
  pattern : Option Text
  template : Option Text
  command : List Text
  env : List Text
  cwd : Option Path
  description : Option Text
  setup : List Text
  goesOn : Bool
  restore : Bool
  dryRun : Bool
  report : Option Path
  deriving Repr

structure PatchOptions where
  target : Path
  pattern : Text
  value : Text
  deriving Repr

inductive Invocation where
  | help
  | sweep (options : SweepOptions)
  | patch (options : PatchOptions)
  deriving Repr

inductive InvocationFault where
  | option (fault : OptionFault)
  | noCommand
  | unknownCommand (name : Text)
  | missingOption (name : String)
  | extraArguments (arguments : List Text)
  | missingFile (path : Path)
  | unusablePath (fault : Fault)
  deriving Repr

def flag (name : String) : OptionSpec := ⟨name, none, false⟩

def valued (name : String) : OptionSpec := ⟨name, none, true⟩

def helpOption : OptionSpec := flag "help"

def sweepSpecs : List OptionSpec :=
  [valued "sweep-values", valued "config-file", valued "pattern", valued "template",
   ⟨"env", some 'e', true⟩, valued "cwd", valued "description", valued "setup",
   flag "continue-on-error", flag "restore", flag "dry-run", valued "report", valued "plan", helpOption]

def patchSpecs : List OptionSpec := [valued "config-file", valued "pattern", valued "value", helpOption]

structure PathOption where
  name : String
  needed : Bool
  deriving DecidableEq, Repr

def sweepPaths : List PathOption :=
  [⟨"config-file", false⟩, ⟨"cwd", false⟩, ⟨"report", false⟩, ⟨"plan", true⟩]

def patchPaths : List PathOption := [⟨"config-file", true⟩]

def lookFor (tree : FileTree) (option : PathOption) (path : Path) : Except InvocationFault Unit :=
  match tree.find path with
  | .ok _ => .ok ()
  | .error (.system _ _) => if option.needed then .error (.missingFile path) else .ok ()
  | .error fault => .error (.unusablePath fault)

def Arguments.path? (arguments : Arguments) (name : String) : Option Path :=
  (arguments.value? name).map Path.ofText

def Arguments.names (arguments : Arguments) : List String :=
  (arguments.given.map Given.name).eraseDups

-- Looks for the paths that were given. Of an option that was given several times only the last value counts,
-- but its turn is that of its first one.
def lookForAll (tree : FileTree) (options : List PathOption) (arguments : Arguments) :
    Except InvocationFault Unit :=
  arguments.names.forM fun name =>
    match options.find? (·.name == name), arguments.path? name with
    | some option, some path => lookFor tree option path
    | _, _ => .ok ()

def sweepOptions (tree : FileTree) (arguments : Arguments) : Except InvocationFault SweepOptions := do
  lookForAll tree sweepPaths arguments
  return {
    plan := arguments.path? "plan"
    values := arguments.value? "sweep-values"
    target := arguments.path? "config-file"
    pattern := arguments.value? "pattern"
    template := arguments.value? "template"
    command := arguments.others
    env := arguments.values "env"
    cwd := arguments.path? "cwd"
    description := arguments.value? "description"
    setup := arguments.values "setup"
    goesOn := arguments.isGiven "continue-on-error"
    restore := arguments.isGiven "restore"
    dryRun := arguments.isGiven "dry-run"
    report := arguments.path? "report" }

def required (arguments : Arguments) (name : String) : Except InvocationFault Text :=
  match arguments.value? name with
  | some value => .ok value
  | none => .error (.missingOption name)

def patchOptions (tree : FileTree) (arguments : Arguments) : Except InvocationFault PatchOptions := do
  lookForAll tree patchPaths arguments
  let target := Path.ofText (← required arguments "config-file")
  let pattern ← required arguments "pattern"
  let value ← required arguments "value"
  if arguments.others.isEmpty then return ⟨target, pattern, value⟩
  else throw (.extraArguments arguments.others)

namespace Invocation

def read (specs : List OptionSpec) (mixed : Bool) (arguments : List Text) :
    Except InvocationFault Arguments :=
  (readArguments specs mixed arguments).mapError .option

-- Reads a command line. Its form is looked at before the files that it names; help, where it is asked
-- for, comes between the two.
def ofArguments (tree : FileTree) (arguments : List Text) : Except InvocationFault Invocation := do
  let group ← read [helpOption] false arguments
  if group.isGiven "help" then return .help
  match group.others with
  | [] => throw .noCommand
  | name :: rest =>
      if name == "run" then
        let given ← read sweepSpecs true rest
        if given.isGiven "help" then return .help
        return .sweep (← sweepOptions tree given)
      else if name == "patch" then
        let given ← read patchSpecs true rest
        if given.isGiven "help" then return .help
        return .patch (← patchOptions tree given)
      else throw (.unknownCommand name)

end Invocation

end ConstantSweep.CommandLine

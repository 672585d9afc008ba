import ConstantSweep.Shell.Launch
import ConstantSweep.Sweep.Bench

set_option autoImplicit false

namespace ConstantSweep.Sweep

open ConstantSweep.Decimal
open ConstantSweep.Shell
open ConstantSweep.Text

structure Ground where
  disk : Disk
  env : Env
  measures : Bool
  deriving Repr

def octetsOf (text : Text) : Except Fault Octets :=
  match Utf8.encodeName? text with
  | .ok bytes => .ok (Octets.ofBytes bytes)
  | .error fault => .error (.encoding fault)

def passed (text : Text) : Except Fault Octets := do
  let octets ← octetsOf text
  if octets.contains (Char.ofNat 0) then throw .nullByte else return octets

-- The variables of a process: those of its parent, overridden by its own. All have to be texts, and no
-- name holds an equals sign.
def processEnv (parent : Env) (own : List (Text × Datum)) : Except Fault (List (Octets × Octets)) := do
  let all := own.foldl (fun env (name, value) => setVariable env name value)
    (CommonEnv.ofEnv parent)
  all.mapM fun (name, value) => do
    let name ← octetsOf name
    if name.contains '=' then throw .illegalVariable
    match value with
    | .text value => return (name, ← octetsOf value)
    | _ => throw .wrongType

structure Prepared where
  name : Octets
  executable : Executable
  arguments : List Octets
  setting : Setting

def startDirectory (tree : FileTree) (cwd : Option Path) : Except SystemError (List Text) :=
  match cwd with
  | none => .ok []
  | some path =>
      if path.isAbsolute then do
        let place ← Executable.outside [] path.parts
        if Executable.directories.contains place then return place else throw .notFound
      else do
        let place ← tree.follow [] path
        match tree.at? place with
        | some .directory => return place
        | some (.file _ _) => throw .notDirectory
        | none => throw .notFound

-- What a process is passed: its variables, its name, the path on which the name is searched, and its arguments,
-- the name being the first of them.
def passedOn (ground : Ground) (step : Step) (command : Text) :
    Except Fault (List (Octets × Octets) × Octets × Octets × List Octets) := do
  let holdsNull (octets : Octets) : Bool := octets.contains (Char.ofNat 0)
  let bindings ← processEnv ground.env step.env
  let name ← octetsOf command
  let searchPath := (bindings.lookup "PATH".toList).getD Executable.standardPath
  if holdsNull name || (!name.contains '/' && holdsNull searchPath) then throw .nullByte
  let arguments ← step.command.mapM passed
  if bindings.any fun (name, value) => holdsNull name || holdsNull value then
    throw .nullByte
  let _ ← step.cwd.mapM fun path => passed path.text
  return (bindings, name, searchPath, arguments)

-- Prepares a process. What cannot be passed to it is a fault; a missing directory or a command that cannot
-- be run is a failure of this step.
def prepare (ground : Ground) (step : Step) : Except SpawnStop Prepared := do
  let command ← match step.command with
    | [] => throw (.fault .indexOutOfRange)
    | command :: _ => pure command
  let cwd := step.cwd.map Path.text
  let (bindings, name, searchPath, arguments) ← (passedOn ground step command).mapError .fault
  let failure (path : Text) (error : SystemError) : SpawnStop :=
    .failure ⟨step.command, error.message path⟩
  let here ← (startDirectory ground.disk.tree step.cwd).mapError (failure (cwd.getD ""))
  let executable ← (Executable.find ground.disk.tree here searchPath name).mapError (failure command)
  return {
    name := name
    executable := executable
    arguments := arguments.tail
    setting := ⟨ground.disk.tree, here, bindings, []⟩ }

def zero : Binary64 := .ofInt 0

namespace Ground

def patch (call : PatchCall) (ground : Ground) : Reply Ground (Except PatchStop Text) :=
  let reply := patchDisk call ground.disk
  { state := { ground with disk := reply.state }
    answer := reply.answer
    signals := reply.signals
    records := reply.records }

def spawn (step : Step) (ground : Ground) : Reply Ground (Except SpawnStop Measured) :=
  match prepare ground step with
  | .error stop => ⟨ground, .error stop, [], []⟩
  | .ok prepared =>
      let launched := launch prepared.setting prepared.name prepared.executable prepared.arguments
      let measured : Measured :=
        { exitCode := launched.exitCode
          elapsed := zero
          maxMemory := if ground.measures then some 0 else none
          stdout := launched.output.text
          stderr := launched.errors.text
          cpu := if ground.measures then some zero else none }
      ⟨{ ground with disk := { ground.disk with tree := launched.tree } }, .ok measured, [], []⟩

-- The bench of a ground. It asks for signals itself, in a block of the forwarder if it is told to.
def bench (opensBlock : Bool) : Bench Ground := ⟨patch, spawn, .present opensBlock⟩

end Ground

end ConstantSweep.Sweep

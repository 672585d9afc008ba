import ConstantSweep.Sweep.Bench

set_option autoImplicit false

namespace ConstantSweep.Sweep

open ConstantSweep.Decimal
open ConstantSweep.Signal

-- What a command does, in this order: it writes files, a signal arrives, it cannot be started, it is
-- interrupted; if none of the last two is the case, it ends with a result.
structure Cue where
  writes : List (Path × Entry)
  signal : Option Int
  spawnError : Option Text
  interrupt : Option Int
  measured : Measured
  deriving Repr

-- What happens by the script. The cues of a command are used up one after the other, the last one stays.
structure Script where
  cues : List (Text × List Cue)
  otherwise : Cue
  deriving Repr

def Script.anyCommand : Text := "*"

structure Stage where
  disk : Disk
  script : Script
  deriving Repr

namespace Script

def advance (cues : List (Text × List Cue)) (key : Text) : List (Text × List Cue) :=
  cues.map fun entry =>
    match entry with
    | (other, first :: second :: rest) =>
        if other == key then (other, second :: rest) else (other, first :: second :: rest)
    | entry => entry

def next (script : Script) (command : List Text) : Cue × Script :=
  let line := Text.intercalate " " command
  let key := if (script.cues.lookup line).isSome then line else anyCommand
  match script.cues.lookup key with
  | some (cue :: _) => (cue, { script with cues := advance script.cues key })
  | _ => (script.otherwise, script)

end Script

namespace Stage

def patch (call : PatchCall) (stage : Stage) : Reply Stage (Except PatchStop Text) :=
  let reply := patchDisk call stage.disk
  { state := { stage with disk := reply.state }
    answer := reply.answer
    signals := reply.signals
    records := reply.records }

def spawn (step : Step) (stage : Stage) : Reply Stage (Except SpawnStop Measured) :=
  let (cue, script) := stage.script.next step.command
  let tree := cue.writes.foldl (fun tree write => tree.install write.1 write.2) stage.disk.tree
  let answer : Except SpawnStop Measured :=
    match cue.spawnError, cue.interrupt with
    | some reason, _ => .error (.failure ⟨step.command, reason⟩)
    | none, some signal => .error (.interrupt signal)
    | none, none => .ok cue.measured
  let after : Stage := ⟨{ stage.disk with tree := tree }, script⟩
  match cue.signal.bind raisingFault? with
  | some fault => ⟨after, .error (.fault fault), [], []⟩
  | none => ⟨after, answer, cue.signal.toList, []⟩

def bench : Bench Stage := ⟨patch, spawn, .absent⟩

end Stage

end ConstantSweep.Sweep

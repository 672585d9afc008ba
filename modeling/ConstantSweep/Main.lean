import ConstantSweep.Calendar
import ConstantSweep.CommandLine.App
import ConstantSweep.CommandLine.Console
import ConstantSweep.CommandLine.Help
import ConstantSweep.Sweep.Rehearsed
import Std.Time

set_option autoImplicit false

namespace ConstantSweep.Program

open ConstantSweep.CommandLine
open ConstantSweep.Sweep

def pathOf (place : List Text) : String := (Text.intercalate "/" ("." :: place)).shown

def entryOf (contents : ByteArray) : Entry :=
  let bytes := contents.toList
  .file bytes ("#!".toUTF8.toList.isPrefixOf bytes)

partial def readEntry (here : List Text) (tree : FileTree) (entry : IO.FS.DirEntry) : IO FileTree := do
  let place := here ++ [Text.ofString entry.fileName]
  if ← entry.path.isDir then
    (← entry.path.readDir).foldlM (readEntry place) (tree.put place .directory)
  else return tree.put place (entryOf (← IO.FS.readBinFile entry.path))

def readAll : IO FileTree := do
  (← (← IO.currentDir).readDir).foldlM (readEntry []) FileTree.empty

def writeBack (before after : FileTree) : IO Unit := do
  for (place, entry) in after.entries do
    if before.at? place != some entry then
      match entry with
      | .directory => IO.FS.createDirAll (pathOf place)
      | .file bytes _ => IO.FS.writeBinFile (pathOf place) ⟨bytes.toArray⟩
  for (place, entry) in before.entries.reverse do
    if (after.at? place).isNone then
      match entry with
      | .directory => IO.FS.removeDir (pathOf place)
      | .file _ _ => IO.FS.removeFile (pathOf place)

def knownVariables : List String := ["HOME", "PATH", "USER", "LANG"]

def readEnv : IO Env := do
  let entries ← knownVariables.mapM fun name => do
    return (← IO.getEnv name).map fun value => (Text.ofString name, Text.ofString value)
  return entries.filterMap id

def now : IO Moment := do
  let time ← Std.Time.Timestamp.now
  return .ofMicroseconds (time.toNanosecondsSinceUnixEpoch.val.toNat / 1000)

def surroundings (time : String) : Surroundings Ground :=
  { bench := Ground.bench true
    disk := fun ground => ground.disk
    setDisk := fun ground disk => { ground with disk := disk }
    time := time }

def logLines {σ : Type} (threshold : Int) (time : String) (trace : List (Event σ)) : List Text :=
  trace.filterMap fun event =>
    match event with
    | .log record =>
        if Log.isEnabled threshold record.level.number then
          some (Log.line time record.level.number record.source.name record.message)
        else none
    | _ => none

def explanation (tree : FileTree) (arguments : List Text) : Verdict → List Text
  | .exit _ => []
  | .usage (some fault) => ["Error: Invalid value: " ++ fault.message]
  | .usage none =>
      match Invocation.ofArguments tree arguments with
      | .error fault => ["Error: " ++ fault.message]
      | .ok _ => []
  | .crash fault => ["Error: " ++ fault.message]

end ConstantSweep.Program

open ConstantSweep ConstantSweep.Program in
def main (arguments : List String) : IO UInt32 := do
  let given := arguments.map Text.ofString
  match Log.threshold ((← IO.getEnv "CONSTANT_SWEEP_LOG_LEVEL").map Text.ofString) with
  | .error fault =>
      IO.eprintln fault.message.shown
      return 1
  | .ok threshold =>
      let before ← readAll
      let moment ← now
      let start : Sweep.Ground := ⟨⟨before, [], []⟩, ← readEnv, true⟩
      let answer := CommandLine.app (surroundings moment.stamp) given
        (.idle [2, 15] fun _ => .initial 0) start
      writeBack before answer.state.disk.tree
      for line in logLines threshold moment.text answer.trace do IO.eprintln line.shown
      let wantsHelp := match CommandLine.Invocation.ofArguments before given with
        | .ok .help => true
        | _ => false
      for message in (if wantsHelp then CommandLine.help else answer.output) do
        IO.print (CommandLine.shown message).shown
      for message in answer.errors ++ explanation before given answer.verdict do
        IO.eprint (CommandLine.shown message).shown
      return answer.verdict.code.toUInt32

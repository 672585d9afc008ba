import ConstantSweep.FileTree
import ConstantSweep.Json.Printer
import ConstantSweep.Sweep.Config
import ConstantSweep.Sweep.Result

set_option autoImplicit false

namespace ConstantSweep.Sweep

def Cause.kindName : Cause → String
  | .general _ => "SweepError"
  | .patch _ => "ConfigPatchError"
  | .spawn _ => "ProcessSpawnError"
  | .execution _ _ _ => "StepExecutionError"
  | .interrupt _ _ _ => "SweepInterruptedError"

def SweepFailure.record (failure : SweepFailure) : Json :=
  .record
    [("value", StepResult.intOrNull failure.value), ("step", StepResult.intOrNull failure.step),
     ("kind", .string failure.error.cause.kindName), ("message", .string failure.error.message)]

def SweepConfig.record (config : SweepConfig) : Except Fault Json := do
  let values ← (Datum.list (config.values.map .int)).toJson
  let template ← config.template.toJson
  return .record
    [("values", values), ("target", .string config.target.text),
     ("pattern", .string config.pattern), ("template", template)]

-- The report: when it was made, whether all went well, results, failures and the configuration.
def report (time : String) (outcome : Outcome) (config : Option SweepConfig) (withOutput : Bool) :
    Except Fault Json := do
  let results ← outcome.results.mapM fun result => result.record withOutput
  let settings ← match config with
    | none => pure []
    | some config => do
        let record ← config.record
        pure [("config", record)]
  return .record (
    [("generated_at", .string time), ("ok", .bool outcome.isOk), ("results", .array results),
     ("failures", .array (outcome.failures.map SweepFailure.record))] ++ settings)

def writeInDirectory (tree : FileTree) (path : Path) (text : Except Fault String) :
    FileTree × Except Fault Unit :=
  match tree.ensureDirectory path.parent with
  | .error fault => (tree, .error fault)
  | .ok prepared =>
      match text with
      | .error fault => (prepared, .error fault)
      | .ok text =>
          match prepared.write path (Text.Utf8.encode text.toList) with
          | .error fault => (prepared, .error fault)
          | .ok after => (after, .ok ())

def writeReport (tree : FileTree) (path : Path) (time : String) (outcome : Outcome)
    (config : Option SweepConfig) (withOutput : Bool) : FileTree × Except Fault Unit :=
  writeInDirectory tree path ((report time outcome config withOutput).map Json.pretty)

end ConstantSweep.Sweep

import ConstantSweep.Datum.Conversion
import ConstantSweep.Decimal.Fixed
import ConstantSweep.Sweep.Error

set_option autoImplicit false

namespace ConstantSweep.Sweep

open ConstantSweep.Decimal

structure StepResult where
  value : Option Int
  step : Int
  command : List Text
  exitCode : Int
  elapsed : Binary64
  maxMemory : Option Int
  stdout : Text
  stderr : Text
  description : Datum
  cpu : Option Binary64
  deriving Repr

namespace StepResult

def isOk (result : StepResult) : Bool := result.exitCode == 0

def valueText (value : Option Int) : String :=
  match value with
  | none => "setup"
  | some value => toString value

def line (result : StepResult) : String :=
  let memory := match result.maxMemory with
    | none => "n/a"
    | some amount => toString amount ++ "KB"
  "value=" ++ valueText result.value ++ " step=" ++ toString result.step ++ " exit=" ++
    toString result.exitCode ++ " elapsed=" ++ result.elapsed.onePlace ++ "s maxmem=" ++ memory

def intOrNull (value : Option Int) : Json :=
  match value with
  | none => .null
  | some value => .int value

def realOrNull (value : Option Binary64) : Json :=
  match value with
  | none => .null
  | some value => .real (Datum.numberText value)

def record (result : StepResult) (withOutput : Bool) : Except Fault Json := do
  let description ← result.description.toJson
  let output := if withOutput then
      [("stdout", Json.string result.stdout), ("stderr", Json.string result.stderr)]
    else []
  return .record (
    [("value", intOrNull result.value), ("step", .int result.step),
     ("command", .array (result.command.map .string)), ("exit_code", .int result.exitCode),
     ("elapsed_s", .real (Datum.numberText result.elapsed)),
     ("max_rss_kb", intOrNull result.maxMemory)] ++ output ++
    [("description", description), ("cpu_s", realOrNull result.cpu), ("ok", .bool result.isOk)])

end StepResult

structure SweepFailure where
  value : Option Int
  step : Option Int
  error : SweepError
  deriving Repr

namespace SweepFailure

def ofError (error : SweepError) : SweepFailure := ⟨error.value, error.step, error⟩

end SweepFailure

structure Outcome where
  results : List StepResult
  failures : List SweepFailure
  deriving Repr

namespace Outcome

def empty : Outcome := ⟨[], []⟩

def isOk (outcome : Outcome) : Bool := outcome.failures.isEmpty

def addResult (outcome : Outcome) (result : StepResult) : Outcome :=
  { outcome with results := outcome.results ++ [result] }

def addFailure (outcome : Outcome) (failure : SweepFailure) : Outcome :=
  { outcome with failures := outcome.failures ++ [failure] }

end Outcome

end ConstantSweep.Sweep

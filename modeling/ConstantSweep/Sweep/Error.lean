import ConstantSweep.Fault
import ConstantSweep.Path
import ConstantSweep.Signal.Name

set_option autoImplicit false

namespace ConstantSweep.Sweep

open ConstantSweep.Text

inductive PatchReason where
  | lines
  | fileNotFound
  | cannotRead (fault : Fault)
  | invalidPattern (fault : Regex.Malformed)
  | cannotWrite (fault : Fault)
  | stated (text : Text)
  deriving Repr

def PatchReason.text (lineCount : Int) : PatchReason → Text
  | .lines =>
      if lineCount = 0 then "no line matches"
      else toString lineCount ++ " lines match, expected exactly one"
  | .fileNotFound => "file not found"
  | .cannotRead fault => "cannot read: " ++ fault.message
  | .invalidPattern fault => "invalid pattern: " ++ fault.message
  | .cannotWrite fault => "cannot write: " ++ fault.message
  | .stated text => text

structure PatchFailure where
  path : Path
  pattern : Text
  lineCount : Int
  reason : PatchReason
  deriving Repr

def PatchFailure.message (failure : PatchFailure) : Text :=
  "Cannot patch " ++ failure.path.text ++ " with pattern " ++ quoted failure.pattern ++ ": " ++
    failure.reason.text failure.lineCount

structure SpawnFailure where
  command : List Text
  reason : Text
  deriving DecidableEq, Repr

def SpawnFailure.message (failure : SpawnFailure) : Text :=
  "Failed to start " ++ failure.command.headD "<empty>" ++ ": " ++ failure.reason

inductive Cause where
  | general (message : Text)
  | patch (failure : PatchFailure)
  | spawn (failure : SpawnFailure)
  | execution (value : Option Int) (step exitCode : Int)
  | interrupt (signal : Int) (value step : Option Int)
  deriving Repr

structure SweepError where
  cause : Cause
  value : Option Int
  step : Option Int
  deriving Repr

def optionText (number : Option Int) : String :=
  match number with
  | none => "None"
  | some number => toString number

def Cause.message : Cause → Text
  | .general message => message
  | .patch failure => failure.message
  | .spawn failure => failure.message
  | .execution value step exitCode =>
      let place := match value with
        | none => "setup"
        | some value => "value=" ++ toString value
      "Step " ++ toString step ++ " failed (" ++ place ++ ") with exit code " ++ toString exitCode
  | .interrupt signal value step =>
      "Sweep interrupted by " ++ Signal.name signal ++ " (value=" ++ optionText value ++ ", step=" ++
        optionText step ++ ")"

def Cause.exitCode : Cause → Nat
  | .general _ => 1
  | .patch _ => 3
  | .spawn _ => 4
  | .execution _ _ _ => 5
  | .interrupt _ _ _ => 130

namespace SweepError

def message (error : SweepError) : Text := error.cause.message

def exitCode (error : SweepError) : Nat := error.cause.exitCode

def stepFailed (value : Option Int) (step exitCode : Int) : SweepError :=
  ⟨.execution value step exitCode, value, some step⟩

def interrupted (signal : Int) (value step : Option Int) : SweepError :=
  ⟨.interrupt signal value step, value, step⟩

def located (error : SweepError) (value step : Option Int) : SweepError :=
  { error with value := value, step := step }

end SweepError

end ConstantSweep.Sweep

import ConstantSweep.CommandLine.Invocation

set_option autoImplicit false

namespace ConstantSweep.CommandLine

def OptionSpec.usage (spec : OptionSpec) : Text :=
  let short := match spec.letter with
    | none => .empty
    | some letter => ", -" ++ Text.ofLetter letter
  "  --" ++ spec.name ++ short ++ (if spec.takesValue then " TEXT" else "")

def introduction : List Text :=
  ["Usage: sweep [--help] COMMAND",
   "",
   "Patch a constant, run commands, record time and memory.",
   ""]

def help : List Text :=
  introduction ++ Text.ofString "run [OPTIONS] [--] [COMMAND]..." :: sweepSpecs.map OptionSpec.usage ++
    .empty :: Text.ofString "patch OPTIONS" :: patchSpecs.map OptionSpec.usage

def InvocationFault.message : InvocationFault → Text
  | .option (.unknownOption name) => "No such option: " ++ name
  | .option (.missingValue name) => "Option requires an argument: " ++ name
  | .option (.unexpectedValue name) => "Option does not take a value: " ++ name
  | .noCommand => "Missing command."
  | .unknownCommand name => "No such command: " ++ name
  | .missingOption name => "Missing option: " ++ name
  | .extraArguments arguments => "Got unexpected extra arguments: " ++ Text.intercalate " " arguments
  | .missingFile path => "Path does not exist: " ++ path.text
  | .unusablePath fault => fault.message

end ConstantSweep.CommandLine

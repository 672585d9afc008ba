import ConstantSweep.Fault
import ConstantSweep.Text.CaseMap

set_option autoImplicit false

namespace ConstantSweep.Log

open ConstantSweep.Text

inductive Level where
  | debug
  | info
  | warning
  | error
  | critical
  deriving DecidableEq, Repr

namespace Level

def number : Level → Nat
  | .debug => 10
  | .info => 20
  | .warning => 30
  | .error => 40
  | .critical => 50

def name : Level → String
  | .debug => "DEBUG"
  | .info => "INFO"
  | .warning => "WARNING"
  | .error => "ERROR"
  | .critical => "CRITICAL"

end Level

def thresholdNames : List (Text × Int) :=
  [("CRITICAL", 50), ("FATAL", 50), ("ERROR", 40), ("WARNING", 30), ("WARN", 30), ("INFO", 20),
   ("DEBUG", 10), ("NOTSET", 0)]

-- The threshold that a setting names in any case; without a setting it is that of informations.
def threshold (setting : Option Text) : Except Fault Int :=
  let name := Text.ofList (upper ((setting.getD "INFO").toList))
  match thresholdNames.lookup name with
  | some number => .ok number
  | none => .error (.unknownLevel name)

def levelName (number : Int) : String :=
  match [Level.debug, .info, .warning, .error, .critical].find? fun level => (level.number : Int) == number with
  | some level => level.name
  | none => if number = 0 then "NOTSET" else "Level " ++ toString number

def isEnabled (threshold level : Int) : Bool := 0 < level && threshold ≤ level

def line (time : String) (level : Int) (source message : Text) : Text :=
  time ++ " " ++ levelName level ++ " " ++ source ++ " " ++ message

inductive Source where
  | patch
  | sweep
  | process
  deriving DecidableEq, Repr

def Source.name : Source → String
  | .patch => "patch"
  | .sweep => "sweep"
  | .process => "process"

inductive Detail where
  | absent
  | text (value : Text)
  | list (items : List Text)
  deriving DecidableEq, Repr

def Detail.ofInt (value : Int) : Detail := .text (toString value)

def Detail.ofOption (value : Option Int) : Detail :=
  match value with
  | none => .absent
  | some value => .ofInt value

structure Record where
  level : Level
  source : Source
  message : Text
  details : List (String × Detail)
  deriving DecidableEq, Repr

end ConstantSweep.Log

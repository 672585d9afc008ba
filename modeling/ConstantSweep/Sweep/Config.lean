import ConstantSweep.Datum.Conversion
import ConstantSweep.Regex.Reader

set_option autoImplicit false

namespace ConstantSweep.Sweep

structure SweepConfig where
  values : List Int
  target : Path
  pattern : Text
  template : Datum
  deriving Repr

namespace SweepConfig

def readValues (values : Datum) : Except Fault (List Int) :=
  if values.isTruthy then do (← values.elements).mapM Datum.toInteger else .error .emptySweep

def checkPattern (pattern : Text) : Except Fault Unit :=
  match Regex.Pattern.ofText pattern with
  | .ok _ => .ok ()
  | .error (.malformed fault) => .error (.invalidPattern pattern fault)
  | .error fault => .error (.pattern fault)

-- A configuration of the given parts; a target or a pattern that is no text is absent. The values are
-- examined first, then the target and the pattern.
def make (values : Datum) (target : Option Path) (pattern : Option Text) (template : Datum) :
    Except Fault SweepConfig := do
  let values ← readValues values
  match target, pattern with
  | some target, some pattern =>
      checkPattern pattern
      return ⟨values, target, pattern, template⟩
  | _, _ => throw .wrongType

def replacement (config : SweepConfig) (value : Int) : Except Fault Text :=
  (config.template.render (some value)).map Datum.toText

end SweepConfig

end ConstantSweep.Sweep

import ConstantSweep.Fault
import ConstantSweep.Text.Blank

set_option autoImplicit false

namespace ConstantSweep.Sweep

open ConstantSweep.Text

def separatesValues (c : Letter) : Bool := c == ',' || isBlank c

def readValue (part : Text) : Except Fault Int :=
  match readInteger 10 part with
  | .ok value => .ok value
  | .error _ => .error (.notASweepValue part)

def readValues (definition : Text) : Except Fault (List Int) :=
  match runsOf separatesValues definition.toList with
  | [] => .error .noSweepValues
  | parts => parts.mapM fun part => readValue ⟨part⟩

end ConstantSweep.Sweep

set_option autoImplicit false

namespace ConstantSweep.Text

-- Characters from `first` on whose names begin with the same words. The endings of their names stand in rows,
-- between commas; an empty one belongs to a code point without a name.
structure NameRun where
  first : Nat
  stem : String
  endings : List String
  deriving DecidableEq, Repr

def NameRun.code? (run : NameRun) (name : String) : Option Nat :=
  if run.stem.isPrefixOf name then
    let ending := String.ofList (name.toList.drop run.stem.length)
    if ending.isEmpty then none
    else ((run.endings.flatMap (·.splitOn ",")).idxOf? ending).map (run.first + ·)
  else none

end ConstantSweep.Text

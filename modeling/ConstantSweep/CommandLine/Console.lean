import ConstantSweep.Text.Width

set_option autoImplicit false

namespace ConstantSweep.CommandLine

open ConstantSweep.Text

-- The characters that a console does not show: bell, backspace, the vertical feeds and the carriage
-- return.
def isDropped (c : Letter) : Bool := [7, 8, 11, 12, 13].contains c.code

def tabDistance : Nat := 8

-- Replaces each tab by a space and as many more as lead to the next stop. `column` is where the piece after
-- the last tab begins, and `piece` is that piece, last letter first.
def expandTabs (column : Nat) (piece : List Letter) : List Letter → List Letter
  | [] => piece.reverse
  | .char '\n' :: rest => piece.reverse ++ .char '\n' :: expandTabs 0 [] rest
  | .char '\t' :: rest =>
      let shown := (.char ' ' :: piece).reverse
      let reached := column + textColumns none shown
      let missing := (tabDistance - reached % tabDistance) % tabDistance
      shown ++ List.replicate missing (.char ' ') ++ expandTabs (reached + missing) [] rest
  | c :: rest => expandTabs column (c :: piece) rest

def shown (message : Text) : Text :=
  ⟨expandTabs 0 [] (message.toList.filter fun c => !isDropped c) ++ [.char '\n']⟩

end ConstantSweep.CommandLine

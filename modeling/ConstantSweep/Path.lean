import ConstantSweep.Text.Basic

set_option autoImplicit false

namespace ConstantSweep

-- `root` counts the slashes in front: none, one, or exactly two, which some systems treat apart.
structure Path where
  root : Nat
  parts : List Text
  deriving DecidableEq, Repr, Inhabited

namespace Path

def pieces : List Letter → List (List Letter)
  | [] => [[]]
  | .char '/' :: rest => [] :: pieces rest
  | c :: rest =>
      match pieces rest with
      | [] => [[c]]
      | piece :: more => (c :: piece) :: more

def isPart (piece : List Letter) : Bool := !piece.isEmpty && piece != [.char '.']

def ofText (text : Text) : Path :=
  let slashes := (text.toList.takeWhile (· == .char '/')).length
  let root := if slashes = 0 then 0 else if slashes = 2 then 2 else 1
  ⟨root, ((pieces text.toList).filter isPart).map Text.ofList⟩

def text (path : Path) : Text :=
  if path.root = 0 && path.parts.isEmpty then "."
  else ⟨List.replicate path.root '/'⟩ ++ Text.intercalate "/" path.parts

def isAbsolute (path : Path) : Bool := path.root != 0

def parent (path : Path) : Path := { path with parts := path.parts.dropLast }

def join (base path : Path) : Path :=
  if path.isAbsolute then path else { base with parts := base.parts ++ path.parts }

def holdsNull (path : Path) : Bool := path.parts.any fun part => part.toList.contains (Char.ofNat 0)

end Path

end ConstantSweep

import ConstantSweep.Regex.Error
import ConstantSweep.Regex.Syntax

set_option autoImplicit false

namespace ConstantSweep.Regex

def widthLimit : Nat := Nat.pow 2 32 - 1

structure Width where
  least : Nat
  most : Nat
  deriving DecidableEq, Repr

namespace Width

-- The least width stays below the limit, so that what may reach the limit has no fixed width.
def capped (least most : Nat) : Width := ⟨min least (widthLimit - 1), min most widthLimit⟩

def add (a b : Width) : Width := capped (a.least + b.least) (a.most + b.most)

def either (a b : Width) : Width := ⟨min a.least b.least, max a.most b.most⟩

-- A repetition without an upper bound is unbounded as soon as its body can match a character.
def times (body : Width) (least : Nat) (most : Option Nat) : Width :=
  match most with
  | some count => capped (body.least * least) (body.most * count)
  | none => capped (body.least * least) (if body.most = 0 then 0 else widthLimit)

end Width

def Node.width (groups : Nat → Width) : Node → Width
  | .empty => ⟨0, 0⟩
  | .char _ => ⟨1, 1⟩
  | .notChar _ => ⟨1, 1⟩
  | .any => ⟨1, 1⟩
  | .set _ _ => ⟨1, 1⟩
  | .anchor _ => ⟨0, 0⟩
  | .seq first second => (first.width groups).add (second.width groups)
  | .alt first second => (first.width groups).either (second.width groups)
  | .capture _ body => body.width groups
  | .scoped _ _ body => body.width groups
  | .atomic body => body.width groups
  | .lookahead _ _ => ⟨0, 0⟩
  | .lookbehind _ _ _ => ⟨0, 0⟩
  | .iterate least most _ body => (body.width groups).times least most
  | .backreference group => groups group
  | .conditional _ present absent => (present.width groups).either (absent.width groups)

def Appetite.operatorName : Appetite → String
  | .greedy => "MAX_REPEAT"
  | .lazy => "MIN_REPEAT"
  | .possessive => "POSSESSIVE_REPEAT"

-- The first part, from left to right and from outside in, that the notation allows and matching does
-- not: a repetition under the template flag, or a look behind of no fixed width.
def Node.obstacle? (groups : Nat → Width) (template : Bool) : Node → Option Complaint
  | .seq first second =>
      (first.obstacle? groups template).orElse fun _ => second.obstacle? groups template
  | .alt first second =>
      (first.obstacle? groups template).orElse fun _ => second.obstacle? groups template
  | .capture _ body => body.obstacle? groups template
  | .scoped _ _ body => body.obstacle? groups template
  | .atomic body => body.obstacle? groups template
  | .lookahead _ body => body.obstacle? groups template
  | .lookbehind _ _ body =>
      let width := body.width groups
      if width.least ≠ width.most then some .variableLookbehind
      else body.obstacle? groups template
  | .iterate _ _ appetite body =>
      if template then some (.templateRepeat appetite.operatorName)
      else body.obstacle? groups template
  | .conditional _ present absent =>
      (present.obstacle? groups template).orElse fun _ => absent.obstacle? groups template
  | _ => none

end ConstantSweep.Regex

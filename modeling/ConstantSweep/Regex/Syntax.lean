import ConstantSweep.Text.Basic

set_option autoImplicit false

namespace ConstantSweep.Regex

structure Flags where
  ignoreCase : Bool := false
  multiline : Bool := false
  dotAll : Bool := false
  verbose : Bool := false
  ascii : Bool := false
  unicode : Bool := false
  template : Bool := false
  deriving DecidableEq, Repr

namespace Flags

def none : Flags := {}

def union (a b : Flags) : Flags :=
  ⟨a.ignoreCase || b.ignoreCase, a.multiline || b.multiline, a.dotAll || b.dotAll,
   a.verbose || b.verbose, a.ascii || b.ascii, a.unicode || b.unicode, a.template || b.template⟩

def without (a b : Flags) : Flags :=
  ⟨a.ignoreCase && !b.ignoreCase, a.multiline && !b.multiline, a.dotAll && !b.dotAll,
   a.verbose && !b.verbose, a.ascii && !b.ascii, a.unicode && !b.unicode, a.template && !b.template⟩

def meets (a b : Flags) : Bool :=
  (a.ignoreCase && b.ignoreCase) || (a.multiline && b.multiline) || (a.dotAll && b.dotAll) ||
  (a.verbose && b.verbose) || (a.ascii && b.ascii) || (a.unicode && b.unicode) ||
  (a.template && b.template)

def ofLetter? : Letter → Option Flags
  | .char 'i' => some { ignoreCase := true }
  | .char 'm' => some { multiline := true }
  | .char 's' => some { dotAll := true }
  | .char 'x' => some { verbose := true }
  | .char 'a' => some { ascii := true }
  | .char 'u' => some { unicode := true }
  | .char 't' => some { template := true }
  | _ => Option.none

def isClassFlag (flag : Flags) : Bool := flag.ascii || flag.unicode

-- The flags inside a group that adds some and removes some; a choice of classes replaces the one
-- around.
def inGroup (around added removed : Flags) : Flags :=
  let base := if added.isClassFlag then { around with ascii := false, unicode := false } else around
  (base.union added).without removed

end Flags

inductive ClassName where
  | digit
  | space
  | word
  deriving DecidableEq, Repr

inductive SetItem where
  | char (code : Nat)
  | range (low high : Nat)
  | named (negated : Bool) (name : ClassName)
  deriving DecidableEq, Repr

inductive Anchor where
  | lineStart
  | lineEnd
  | textStart
  | textEnd
  | boundary
  | notBoundary
  deriving DecidableEq, Repr

inductive Appetite where
  | greedy
  | lazy
  | possessive
  deriving DecidableEq, Repr

inductive Node where
  | empty
  | char (code : Nat)
  | notChar (code : Nat)
  | any
  | set (negated : Bool) (items : List SetItem)
  | anchor (kind : Anchor)
  | seq (first second : Node)
  | alt (first second : Node)
  | capture (group : Nat) (body : Node)
  | scoped (added removed : Flags) (body : Node)
  | atomic (body : Node)
  | lookahead (negated : Bool) (body : Node)
  | lookbehind (negated : Bool) (width : Nat) (body : Node)
  | iterate (least : Nat) (most : Option Nat) (appetite : Appetite) (body : Node)
  | backreference (group : Nat)
  | conditional (group : Nat) (present absent : Node)
  deriving DecidableEq, Repr

structure Pattern where
  flags : Flags
  root : Node
  deriving Repr

end ConstantSweep.Regex

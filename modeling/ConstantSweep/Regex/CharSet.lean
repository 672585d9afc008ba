import ConstantSweep.Regex.Syntax
import ConstantSweep.Text.Blank
import ConstantSweep.Text.CaseMap
import ConstantSweep.Text.Digit
import ConstantSweep.Text.Word

set_option autoImplicit false

namespace ConstantSweep.Regex

open ConstantSweep.Text

def ClassName.holds (ascii : Bool) (name : ClassName) (code : Nat) : Bool :=
  let c := Letter.ofCode code
  match name with
  | .digit => if ascii then c.isChar Char.isDigit else isDecimalDigit c
  | .space => if ascii then isAsciiBlank c else isBlank c
  | .word => if ascii then isAsciiWordCharacter c else isWordCharacter c

def SetItem.holds (ascii : Bool) (code : Nat) : SetItem → Bool
  | .char same => code == same
  | .range low high => low ≤ code && code ≤ high
  | .named negated name => name.holds ascii code != negated

def foldCase (ascii : Bool) (code : Nat) : Nat :=
  if ascii then (if 65 ≤ code && code ≤ 90 then code + 32 else code) else lowerCode code

def upperCode (code : Nat) : Nat := (upperCodes code).headD code

def isCased (ascii : Bool) (code : Nat) : Bool :=
  if ascii then code < 128 && (Char.ofNat code).isAlpha
  else lowerCode code != code || upperCode code != code

def caseClass (ascii : Bool) (lower : Nat) : List Nat :=
  if ascii then [lower] else lower :: lowerVariants lower

def meetsRun (low high : Nat) (run : CaseRun) : Bool :=
  let start := if low ≤ run.first then run.first
    else run.first + (low - run.first + run.step - 1) / run.step * run.step
  start ≤ run.last && start ≤ high

def casedWithin (ascii : Bool) (low high : Nat) : Bool :=
  let meets (first last : Nat) : Bool := low ≤ last && first ≤ high
  meets 65 90 || meets 97 122 ||
    (!ascii && (meets 0x130 0x130 || lowerRuns.any (meetsRun low high) ||
      upperRuns.any (meetsRun low high) || longUppers.any fun entry => meets entry.1 entry.1))

def raised (ascii : Bool) (lower : Nat) : List Nat :=
  let ofRun (run : CaseRun) : Option Nat :=
    let code : Int := (lower : Int) - run.shift
    if 0 ≤ code && run.covers code.toNat then some code.toNat else none
  let capital := if 97 ≤ lower && lower ≤ 122 then [lower - 32] else []
  let candidates := lower :: capital ++
    (if ascii then [] else (if lower == 0x69 then [0x130] else []) ++ lowerRuns.filterMap ofRun)
  candidates.filter fun code => foldCase ascii code == lower

def basicPlane (code : Nat) : Bool := code < 0x10000

-- A member with two cases; a range that reaches beyond the first plane always counts as one.
def SetItem.hasCase (ascii : Bool) : SetItem → Bool
  | .char code => Regex.isCased ascii code
  | .range low high => !basicPlane high || casedWithin ascii low high
  | .named _ _ => false

-- A set is matched without case only if a member has two cases; members beyond the first plane always
-- count as such.
def SetItem.isCased (ascii : Bool) : SetItem → Bool
  | .char code => !basicPlane code || Regex.isCased ascii code
  | item => item.hasCase ascii

-- Membership of a lower case code point when case does not matter. A range stands for the letters of
-- the first plane that it covers in either case; beyond it, for the code point and its upper case.
def SetItem.holdsFolded (ascii : Bool) (lower : Nat) : SetItem → Bool
  | .char code =>
      if basicPlane code then (caseClass ascii (foldCase ascii code)).contains lower else lower == code
  | .range low high =>
      let inBasic := (caseClass ascii lower).any fun letter =>
        (raised ascii letter).any fun code => low ≤ code && code ≤ high && basicPlane code
      let upper := upperCode lower
      inBasic || (!basicPlane high &&
        ((low ≤ lower && lower ≤ high) || (low ≤ upper && upper ≤ high)))
  | .named negated name => name.holds ascii lower != negated

def setHolds (flags : Flags) (negated : Bool) (items : List SetItem) (code : Nat) : Bool :=
  let ascii := flags.ascii
  let found :=
    if flags.ignoreCase && items.any (·.isCased ascii) then
      items.any (·.holdsFolded ascii (foldCase ascii code))
    else items.any (·.holds ascii code)
  found != negated

def literalHolds (flags : Flags) (literal code : Nat) : Bool :=
  if flags.ignoreCase && isCased flags.ascii literal then
    (caseClass flags.ascii (foldCase flags.ascii literal)).contains (foldCase flags.ascii code)
  else code == literal

def sameCharacter (flags : Flags) (left right : Nat) : Bool :=
  if flags.ignoreCase then foldCase flags.ascii left == foldCase flags.ascii right else left == right

end ConstantSweep.Regex

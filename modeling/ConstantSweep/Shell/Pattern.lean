import ConstantSweep.Shell.Octets

set_option autoImplicit false

namespace ConstantSweep.Shell

structure Mark where
  quoted : Bool
  char : Char
  deriving DecidableEq, Repr

inductive Wild where
  | one (c : Char)
  | any
  | many
  | oneOf (negated : Bool) (ranges : List (Char × Char))
  deriving DecidableEq, Repr

abbrev Pattern := List Wild

namespace Pattern

-- The ranges of a bracket expression up to its closing bracket, which may also come first as one of the
-- characters.
def ranges? (isFirst : Bool) : List Mark → Option (List (Char × Char) × List Mark)
  | [] => none
  | mark :: rest =>
      if !isFirst && !mark.quoted && mark.char == ']' then some ([], rest)
      else
        match rest with
        | dash :: last :: after =>
            if !dash.quoted && dash.char == '-' && (last.quoted || last.char != ']') then
              (ranges? false after).map fun (ranges, rest) => ((mark.char, last.char) :: ranges, rest)
            else
              (ranges? false (dash :: last :: after)).map fun (ranges, rest) =>
                ((mark.char, mark.char) :: ranges, rest)
        | rest => (ranges? false rest).map fun (ranges, rest) => ((mark.char, mark.char) :: ranges, rest)

def bracket? (marks : List Mark) : Option (Wild × List Mark) :=
  match marks with
  | mark :: rest =>
      if !mark.quoted && mark.char == '!' then
        (ranges? true rest).map fun (ranges, rest) => (.oneOf true ranges, rest)
      else (ranges? true marks).map fun (ranges, rest) => (.oneOf false ranges, rest)
  | [] => none

def ofMarks : Nat → List Mark → Pattern
  | 0, _ => []
  | _, [] => []
  | fuel + 1, mark :: rest =>
      if mark.quoted then .one mark.char :: ofMarks fuel rest
      else if mark.char == '*' then .many :: ofMarks fuel rest
      else if mark.char == '?' then .any :: ofMarks fuel rest
      else if mark.char == '[' then
        match bracket? rest with
        | some (wild, rest) => wild :: ofMarks fuel rest
        | none => .one '[' :: ofMarks fuel rest
      else .one mark.char :: ofMarks fuel rest

def Wild.accepts (wild : Wild) (c : Char) : Bool :=
  match wild with
  | .one other => c == other
  | .any => true
  | .many => false
  | .oneOf negated ranges => (ranges.any fun range => range.1 ≤ c && c ≤ range.2) != negated

def accepts : Pattern → Octets → Bool
  | [], octets => octets.isEmpty
  | .many :: pattern, [] => accepts pattern []
  | .many :: pattern, c :: rest => accepts pattern (c :: rest) || accepts (.many :: pattern) rest
  | _ :: _, [] => false
  | wild :: pattern, c :: rest => Wild.accepts wild c && accepts pattern rest
termination_by pattern octets => pattern.length + octets.length

def strip (pattern : Pattern) (atEnd longest : Bool) (octets : Octets) : Octets :=
  let lengths := List.range (octets.length + 1)
  let counts := if longest then lengths.reverse else lengths
  let found := counts.find? fun count =>
    if atEnd then pattern.accepts (octets.drop (octets.length - count))
    else pattern.accepts (octets.take count)
  match found with
  | none => octets
  | some count => if atEnd then octets.take (octets.length - count) else octets.drop count

def isWild (marks : List Mark) : Bool :=
  marks.any fun mark => !mark.quoted && (mark.char == '*' || mark.char == '?' || mark.char == '[')

end Pattern

end ConstantSweep.Shell

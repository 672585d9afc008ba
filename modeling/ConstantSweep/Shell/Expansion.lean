import ConstantSweep.Shell.Arithmetic
import ConstantSweep.Shell.Pattern
import ConstantSweep.Shell.Work

set_option autoImplicit false

namespace ConstantSweep.Shell

inductive Piece where
  | char (quoted splits : Bool) (c : Char)
  | present
  | gap
  deriving DecidableEq, Repr

namespace Piece

def mark? : Piece → Option Mark
  | .char quoted _ c => some ⟨quoted, c⟩
  | .present => none
  | .gap => some ⟨true, ' '⟩

end Piece

namespace Expansion

def pieces (quoted : Bool) (value : Octets) : List Piece :=
  (if quoted then [Piece.present] else []) ++ value.map (Piece.char quoted (!quoted))

def fieldPieces (quoted : Bool) (values : List Octets) : List Piece :=
  [Piece.gap].intercalate (values.map (pieces quoted))

def value? (name : String) : Work (Option Octets) := do
  let shell ← Work.shell
  match name with
  | "?" => return some (Octets.ofNat shell.status)
  | "$" => return some (Octets.ofNat shell.number)
  | "#" => return some (Octets.ofNat shell.parameters.length)
  | "0" => return some shell.name
  | "@" => return some ([' '].intercalate shell.parameters)
  | "*" => return some ([' '].intercalate shell.parameters)
  | "!" => return none
  | "-" => return some (if shell.exitsOnFailure then ['e'] else [])
  | name =>
      match name.toNat? with
      | some number => return shell.parameters[number - 1]?
      | none => Work.valueOf name

-- The value of a parameter; one without a value is empty, unless the shell insists on values.
def value (name : String) : Work Octets := do
  match ← value? name with
  | some value => return value
  | none =>
      if (← Work.shell).needsVariables && name != "@" && name != "*" then
        Work.say (name.toList ++ ": parameter not set".toList)
        throw (.exit 2)
      return []

def isMissing (emptyToo : Bool) (value : Option Octets) : Bool :=
  match value with
  | none => true
  | some value => emptyToo && value.isEmpty

def textOfPieces (pieces : List Piece) : Octets := (pieces.filterMap Piece.mark?).map fun mark => mark.char

def patternOfPieces (pieces : List Piece) : Pattern :=
  let marks := pieces.filterMap Piece.mark?
  Pattern.ofMarks (marks.length + 1) marks

def useOf (expand : Word → Work (List Piece)) (quoted : Bool) (name : String) (use : Use) :
    Work (List Piece) := do
  match use with
  | .value =>
      if name == "@" || (name == "*" && !quoted) then
        return fieldPieces quoted (← Work.shell).parameters
      return pieces quoted (← value name)
  | .length => return pieces quoted (Octets.ofNat (← value name).length)
  | .orElse emptyToo word =>
      let found ← value? name
      if isMissing emptyToo found then expand word else return pieces quoted (found.getD [])
  | .orAssign emptyToo word =>
      let found ← value? name
      if isMissing emptyToo found then
        let text := textOfPieces (← expand word)
        Work.setVariable name text
        return pieces quoted text
      return pieces quoted (found.getD [])
  | .orComplain emptyToo word =>
      let found ← value? name
      if isMissing emptyToo found then
        let text := textOfPieces (← expand word)
        Work.say (name.toList ++ ": ".toList ++
          (if text.isEmpty then "parameter not set".toList else text))
        throw (.exit 2)
      return pieces quoted (found.getD [])
  | .ifSet emptyToo word =>
      if isMissing emptyToo (← value? name) then return pieces quoted [] else expand word
  | .without atEnd longest word =>
      let pattern := patternOfPieces (← expand word)
      return pieces quoted (pattern.strip atEnd longest (← value name))

def withoutLineEnds (octets : Octets) : Octets := (octets.reverse.dropWhile (· == '\n')).reverse

def outputOf (run : Command → Work Unit) (command : Command) : Work Octets := do
  let text ← Work.newText []
  Work.restoring (fun before after => { before with substituted := after.status })
    (do
      Work.setChannel 1 (.text text)
      tryCatch (run command) fun stop =>
        match stop with
        | .exit status => Work.setStatus status
        | stop => throw stop)
  return withoutLineEnds ((← Work.textOf text).filter fun c => c.toNat != 0)

def calculated (octets : Octets) : Work Octets := do
  let bindings := (← Work.shell).bindings
  let lookup (name : String) : Int := (readDecimal ((bindings.lookup name.toList).getD [])).getD 0
  match evaluate lookup octets with
  | .ok value => return Octets.ofInt value
  | .error .divisionByZero =>
      Work.say ("arithmetic expression: division by zero: \"".toList ++ octets ++ ['"'])
      throw (.exit 2)
  | .error .malformed =>
      Work.say ("arithmetic expression: expecting primary: \"".toList ++ octets ++ ['"'])
      throw (.exit 2)

def word (run : Command → Work Unit) : Nat → Word → Work (List Piece)
  | 0, _ => return []
  | fuel + 1, parts => do
      let expanded ← parts.mapM fun part =>
        match part with
        | .literal quoted octets =>
            return (if quoted then [Piece.present] else []) ++ octets.map (Piece.char quoted false)
        | .parameter quoted name use => useOf (word run fuel) quoted name use
        | .arithmetic quoted inside => do
            return pieces quoted (← calculated (textOfPieces (← word run fuel inside)))
        | .output quoted command => do return pieces quoted (← outputOf run command)
      return expanded.flatten

-- Cuts pieces into fields. A blank that separates makes no empty fields, another separator does.
def fieldsOf (separators : Octets) : Option (List Mark) → List Piece → List (List Mark)
  | none, [] => []
  | some marks, [] => [marks]
  | current, .present :: rest => fieldsOf separators (some (current.getD [])) rest
  | current, .gap :: rest => current.toList ++ fieldsOf separators none rest
  | current, .char quoted splits c :: rest =>
      if splits && separators.contains c then
        if " \t\n".toList.contains c then current.toList ++ fieldsOf separators none rest
        else current.getD [] :: fieldsOf separators none rest
      else fieldsOf separators (some (current.getD [] ++ [⟨quoted, c⟩])) rest

def components (marks : List Mark) : List (List Mark) :=
  match marks with
  | [] => [[]]
  | mark :: rest =>
      match components rest with
      | [] => [[mark]]
      | component :: more =>
          if mark.char == '/' then [] :: component :: more else (mark :: component) :: more

def matchingPaths (tree : FileTree) (shown : Octets) (place : List Text) : List (List Mark) → List Octets
  | [] => if (tree.at? place).isSome then [shown] else []
  | component :: rest =>
      let isLast := rest.isEmpty
      let follow (name : Text) (text : Octets) : List Octets :=
        matchingPaths tree (shown ++ text ++ (if isLast then [] else ['/'])) (place ++ [name]) rest
      if Pattern.isWild component then
        let pattern := Pattern.ofMarks (component.length + 1) component
        let showsHidden := (component.head?.map fun mark => mark.char) == some '.'
        (namesIn tree place).flatMap fun name =>
          let text := Octets.ofName name
          if pattern.accepts text && (showsHidden || text.head? != some '.') then follow name text else []
      else
        let text := component.map fun mark => mark.char
        follow (Octets.name text) text

def textsOf (tree : FileTree) (here : List Text) (marks : List Mark) : List Octets :=
  let plain := marks.map fun mark => mark.char
  if Pattern.isWild marks && plain.head? != some '/' then
    match matchingPaths tree [] here (components marks) with
    | [] => [plain]
    | paths => paths
  else [plain]

def fields (run : Command → Work Unit) (fuel : Nat) (words : List Word) : Work (List Octets) := do
  let lists ← words.mapM fun parts => do
    let pieces ← word run fuel parts
    let separators := (← Work.valueOf "IFS").getD " \t\n".toList
    let world ← get
    return (fieldsOf separators none pieces).flatMap (textsOf world.tree world.shell.here)
  return lists.flatten

def text (run : Command → Work Unit) (fuel : Nat) (parts : Word) : Work Octets := do
  return textOfPieces (← word run fuel parts)

end Expansion

end ConstantSweep.Shell

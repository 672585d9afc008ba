import ConstantSweep.FileTree
import ConstantSweep.Shell.Octets

set_option autoImplicit false

namespace ConstantSweep.Shell

inductive ConditionFault where
  | notANumber (argument : Octets)
  | unexpectedOperator (argument : Octets)
  | missingArgument (argument : Octets)
  deriving DecidableEq, Repr

def ConditionFault.message : ConditionFault → Octets
  | .notANumber argument => "Illegal number: ".toList ++ argument
  | .unexpectedOperator argument => argument ++ ": unexpected operator".toList
  | .missingArgument argument => argument ++ ": argument expected".toList

namespace Condition

-- What a name leads to from a directory. Absolute names lead to nothing, the null device apart.
def entry? (tree : FileTree) (here : List Text) (name : Octets) : Option Entry :=
  let path := Path.ofText name.name
  if name.isEmpty || path.isAbsolute then none
  else
    match tree.walk here path.parts with
    | .ok place => tree.at? place
    | .error _ => none

def isFile (entry : Option Entry) : Bool :=
  match entry with
  | some (.file _ _) => true
  | _ => false

def unary? (tree : FileTree) (here : List Text) (sign : String) (argument : Octets) : Option Bool :=
  let entry := entry? tree here argument
  match sign with
  | "-n" => some !argument.isEmpty
  | "-z" => some argument.isEmpty
  | "-e" => some entry.isSome
  | "-r" => some entry.isSome
  | "-w" => some entry.isSome
  | "-f" => some (isFile entry)
  | "-d" => some (entry == some .directory)
  | "-s" => some (match entry with
      | some (.file bytes _) => !bytes.isEmpty
      | some .directory => true
      | none => false)
  | "-x" => some (match entry with
      | some (.file _ executable) => executable
      | some .directory => true
      | none => false)
  | "-L" => some false
  | "-h" => some false
  | "-t" => some false
  | _ => none

def number (argument : Octets) : Except ConditionFault Int :=
  match readDecimal argument with
  | some value => .ok value
  | none => .error (.notANumber argument)

def binary? (sign : String) (left right : Octets) : Option (Except ConditionFault Bool) :=
  let compare (test : Int → Int → Bool) : Option (Except ConditionFault Bool) :=
    some do return test (← number left) (← number right)
  match sign with
  | "=" => some (.ok (left == right))
  | "!=" => some (.ok (left != right))
  | "<" => some (.ok (decide (left < right)))
  | ">" => some (.ok (decide (right < left)))
  | "-eq" => compare fun left right => left == right
  | "-ne" => compare fun left right => left != right
  | "-lt" => compare fun left right => left < right
  | "-le" => compare fun left right => left ≤ right
  | "-gt" => compare fun left right => left > right
  | "-ge" => compare fun left right => left ≥ right
  | _ => none

abbrev Result := Except ConditionFault (Bool × List Octets)

def primary (tree : FileTree) (here : List Text) (whole : List Octets → Result) : List Octets → Result
  | [] => .ok (false, [])
  | [argument] => .ok (!argument.isEmpty, [])
  | left :: sign :: rest =>
      match rest with
      | right :: after =>
          match binary? (String.ofList sign) left right with
          | some result => result.map fun value => (value, after)
          | none =>
              if left == ['('] then
                match whole (sign :: rest) with
                | .ok (value, [')'] :: after) => .ok (value, after)
                | .ok _ => .error (.missingArgument [')'])
                | .error fault => .error fault
              else
                match unary? tree here (String.ofList left) sign with
                | some value => .ok (value, rest)
                | none => .ok (!left.isEmpty, sign :: rest)
      | [] =>
          match unary? tree here (String.ofList left) sign with
          | some value => .ok (value, [])
          | none => .ok (!left.isEmpty, [sign])

inductive Level where
  | alternatives
  | together
  | single
  deriving DecidableEq

def test (tree : FileTree) (here : List Text) : Nat → Level → List Octets → Result
  | 0, _, arguments => .ok (false, arguments)
  | fuel + 1, .single, ['!'] :: next :: rest =>
      (test tree here fuel .single (next :: rest)).map fun (value, rest) => (!value, rest)
  | fuel + 1, .single, arguments => primary tree here (test tree here fuel .alternatives) arguments
  | fuel + 1, .together, arguments => do
      let (left, rest) ← test tree here fuel .single arguments
      match rest with
      | ['-', 'a'] :: rest =>
          let (right, rest) ← test tree here fuel .together rest
          return (left && right, rest)
      | rest => return (left, rest)
  | fuel + 1, .alternatives, arguments => do
      let (left, rest) ← test tree here fuel .together arguments
      match rest with
      | ['-', 'o'] :: rest =>
          let (right, rest) ← test tree here fuel .alternatives rest
          return (left || right, rest)
      | rest => return (left, rest)

end Condition

def holds (tree : FileTree) (here : List Text) (arguments : List Octets) : Except ConditionFault Bool :=
  match Condition.test tree here (3 * arguments.length + 3) .alternatives arguments with
  | .ok (value, []) => .ok value
  | .ok (_, rest :: _) => .error (.unexpectedOperator rest)
  | .error fault => .error fault

end ConstantSweep.Shell

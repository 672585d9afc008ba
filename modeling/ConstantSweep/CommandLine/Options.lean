import ConstantSweep.Text.Basic

set_option autoImplicit false

namespace ConstantSweep.CommandLine

structure OptionSpec where
  name : String
  letter : Option Letter
  takesValue : Bool
  deriving DecidableEq, Repr

inductive OptionFault where
  | unknownOption (name : Text)
  | missingValue (name : String)
  | unexpectedValue (name : String)
  deriving DecidableEq, Repr

structure Given where
  name : String
  value : Option Text
  deriving DecidableEq, Repr

structure Arguments where
  given : List Given
  others : List Text
  deriving DecidableEq, Repr

namespace Arguments

def isGiven (arguments : Arguments) (name : String) : Bool :=
  arguments.given.any fun given => given.name == name

def values (arguments : Arguments) (name : String) : List Text :=
  arguments.given.filterMap fun given => if given.name == name then given.value else none

def value? (arguments : Arguments) (name : String) : Option Text := (arguments.values name).getLast?

def addGiven (arguments : Arguments) (given : Given) : Arguments :=
  { arguments with given := given :: arguments.given }

def addOther (arguments : Arguments) (other : Text) : Arguments :=
  { arguments with others := other :: arguments.others }

end Arguments

inductive Argument where
  | stop
  | other
  | long (name : Text) (value : Option Text)
  | letters (letters : List Letter)
  deriving DecidableEq, Repr

namespace Argument

def ofText (text : Text) : Argument :=
  match text.toList with
  | [.char '-', .char '-'] => .stop
  | .char '-' :: .char '-' :: rest =>
      let name := Text.ofList (rest.takeWhile (· != .char '='))
      match rest.dropWhile (· != .char '=') with
      | _ :: value => .long name (some ⟨value⟩)
      | [] => .long name none
  | .char '-' :: c :: rest => .letters (c :: rest)
  | _ => .other

end Argument

-- What letters after a dash ask for: the flags among them, and the option that takes the rest of the
-- argument, or the next argument, as its value.
def readLetters (specs : List OptionSpec) :
    List Letter → Except OptionFault (List Given × Option (String × Option Text))
  | [] => .ok ([], none)
  | letter :: rest =>
      match specs.find? fun spec => spec.letter == some letter with
      | none => .error (.unknownOption ⟨['-', letter]⟩)
      | some spec =>
          if spec.takesValue then
            .ok ([], some (spec.name, if rest.isEmpty then none else some ⟨rest⟩))
          else (readLetters specs rest).map fun (flags, last) => (⟨spec.name, none⟩ :: flags, last)

def readArguments (specs : List OptionSpec) (mixed : Bool) : List Text → Except OptionFault Arguments
  | [] => .ok ⟨[], []⟩
  | text :: rest =>
      match Argument.ofText text with
      | .stop => .ok ⟨[], rest⟩
      | .other =>
          if mixed then (readArguments specs mixed rest).map fun arguments => arguments.addOther text
          else .ok ⟨[], text :: rest⟩
      | .long name value =>
          match specs.find? fun spec => spec.name == name with
          | none => .error (.unknownOption name)
          | some spec =>
              let add (value : Option Text) (arguments : Arguments) : Arguments :=
                arguments.addGiven ⟨spec.name, value⟩
              if spec.takesValue then
                match value, rest with
                | some value, rest => (readArguments specs mixed rest).map (add (some value))
                | none, value :: rest => (readArguments specs mixed rest).map (add (some value))
                | none, [] => .error (.missingValue spec.name)
              else if value.isSome then .error (.unexpectedValue spec.name)
              else (readArguments specs mixed rest).map (add none)
      | .letters letters =>
          match readLetters specs letters with
          | .error fault => .error fault
          | .ok (flags, last) =>
              let addFlags (arguments : Arguments) : Arguments :=
                { arguments with given := flags ++ arguments.given }
              match last, rest with
              | none, rest => (readArguments specs mixed rest).map addFlags
              | some (name, some value), rest =>
                  (readArguments specs mixed rest).map fun arguments =>
                    addFlags (arguments.addGiven ⟨name, some value⟩)
              | some (name, none), value :: rest =>
                  (readArguments specs mixed rest).map fun arguments =>
                    addFlags (arguments.addGiven ⟨name, some value⟩)
              | some (name, none), [] => .error (.missingValue name)

end ConstantSweep.CommandLine

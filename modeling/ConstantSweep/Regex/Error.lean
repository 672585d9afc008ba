import ConstantSweep.Text.Integer
import ConstantSweep.Text.Utf8

set_option autoImplicit false

namespace ConstantSweep.Regex

open ConstantSweep.Text

inductive Complaint where
  | escapeAtEnd
  | badEscape (text : Text)
  | incompleteEscape (text : Text)
  | missing (what : String)
  | unterminatedName (terminator : Char)
  | undefinedCharacter (name : Text)
  | octalOutOfRange (text : Text)
  | invalidReference (group : Nat)
  | openReference
  | lookbehindReference
  | unterminatedSet
  | badRange (low high : Text)
  | repeatOrder
  | nothingToRepeat
  | multipleRepeat
  | unexpectedEnd
  | unknownExtension (text : Text)
  | badGroupName (name : Text)
  | unknownGroup (name : Text)
  | groupRedefined (name : Text) (group earlier : Nat)
  | badGroupNumber
  | unterminatedComment
  | unterminatedGroup
  | tooManyBranches
  | misplacedFlags
  | localeFlag
  | incompatibleFlags
  | unknownFlag
  | globalFlagOn
  | globalFlagOff
  | classFlagOff
  | contradictoryFlag
  | unbalanced
  | variableLookbehind
  | templateRepeat (operator : String)
  deriving DecidableEq, Repr

def Complaint.message : Complaint → Text
  | .escapeAtEnd => "bad escape (end of pattern)"
  | .badEscape text => "bad escape " ++ text
  | .incompleteEscape text => "incomplete escape " ++ text
  | .missing what => "missing " ++ what
  | .unterminatedName terminator => "missing " ++ terminator.toString ++ ", unterminated name"
  | .undefinedCharacter name => "undefined character name " ++ quoted name
  | .octalOutOfRange text => "octal escape value " ++ text ++ " outside of range 0-0o377"
  | .invalidReference group => "invalid group reference " ++ toString group
  | .openReference => "cannot refer to an open group"
  | .lookbehindReference => "cannot refer to group defined in the same lookbehind subpattern"
  | .unterminatedSet => "unterminated character set"
  | .badRange low high => "bad character range " ++ low ++ "-" ++ high
  | .repeatOrder => "min repeat greater than max repeat"
  | .nothingToRepeat => "nothing to repeat"
  | .multipleRepeat => "multiple repeat"
  | .unexpectedEnd => "unexpected end of pattern"
  | .unknownExtension text => "unknown extension ?" ++ text
  | .badGroupName name => "bad character in group name " ++ quoted name
  | .unknownGroup name => "unknown group name " ++ quoted name
  | .groupRedefined name group earlier =>
      "redefinition of group name " ++ quoted name ++ " as group " ++ toString group ++
        "; was group " ++ toString earlier
  | .badGroupNumber => "bad group number"
  | .unterminatedComment => "missing ), unterminated comment"
  | .unterminatedGroup => "missing ), unterminated subpattern"
  | .tooManyBranches => "conditional backref with more than two branches"
  | .misplacedFlags => "global flags not at the start of the expression"
  | .localeFlag => "bad inline flags: cannot use 'L' flag with a str pattern"
  | .incompatibleFlags => "bad inline flags: flags 'a', 'u' and 'L' are incompatible"
  | .unknownFlag => "unknown flag"
  | .globalFlagOn => "bad inline flags: cannot turn on global flag"
  | .globalFlagOff => "bad inline flags: cannot turn off global flag"
  | .classFlagOff => "bad inline flags: cannot turn off flags 'a', 'u' and 'L'"
  | .contradictoryFlag => "bad inline flags: flag turned on and off"
  | .unbalanced => "unbalanced parenthesis"
  | .variableLookbehind => "look-behind requires fixed-width pattern"
  | .templateRepeat operator => "internal: unsupported template operator " ++ operator

structure Malformed where
  complaint : Complaint
  position : Option Nat
  pattern : Text
  deriving DecidableEq, Repr

def lineAndColumn (text : List Letter) (position : Nat) : Nat × Nat :=
  let before := text.take position
  (before.count (.char '\n') + 1, (before.reverse.takeWhile (· != .char '\n')).length + 1)

def Malformed.message (fault : Malformed) : Text :=
  match fault.position with
  | none => fault.complaint.message
  | some position =>
      let text := fault.pattern.toList
      let place := fault.complaint.message ++ " at position " ++ toString position
      if text.contains '\n' then
        let (line, column) := lineAndColumn text position
        place ++ " (line " ++ toString line ++ ", column " ++ toString column ++ ")"
      else place

-- Why a text is not a pattern. Only the first kind is a fault of the notation; a repetition count can
-- also be out of range or too long to read, the code of a character can be out of all range, the name of one can
-- hold what no name has bytes for, and the flags of the whole can contradict each other.
inductive Fault where
  | malformed (fault : Malformed)
  | codePointTooWide
  | repetitionTooLarge
  | numberTooLong (fault : IntegerFault)
  | unencodableName (fault : Utf8.Unencodable)
  | conflictingClasses
  deriving DecidableEq, Repr

def Fault.message : Fault → Text
  | .malformed fault => fault.message
  | .codePointTooWide => "Python int too large to convert to C int"
  | .repetitionTooLarge => "the repetition number is too large"
  | .numberTooLong fault => fault.message
  | .unencodableName fault => fault.message
  | .conflictingClasses => "ASCII and UNICODE flags are incompatible"

end ConstantSweep.Regex

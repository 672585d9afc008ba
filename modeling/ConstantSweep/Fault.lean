import ConstantSweep.Datum.Basic
import ConstantSweep.Regex.Error
import ConstantSweep.Text.Integer
import ConstantSweep.Text.Utf8
import ConstantSweep.Text.Words

set_option autoImplicit false

namespace ConstantSweep

open ConstantSweep.Text

inductive SystemError where
  | notFound
  | badExecutable
  | permission
  | exists
  | notDirectory
  | isDirectory
  | invalidArgument
  | nameTooLong
  | notEmpty
  | tooManyLinks
  deriving DecidableEq, Repr

namespace SystemError

def number : SystemError → Nat
  | .notFound => 2
  | .badExecutable => 8
  | .permission => 13
  | .exists => 17
  | .notDirectory => 20
  | .isDirectory => 21
  | .invalidArgument => 22
  | .nameTooLong => 36
  | .notEmpty => 39
  | .tooManyLinks => 40

def text : SystemError → String
  | .notFound => "No such file or directory"
  | .badExecutable => "Exec format error"
  | .permission => "Permission denied"
  | .exists => "File exists"
  | .notDirectory => "Not a directory"
  | .isDirectory => "Is a directory"
  | .invalidArgument => "Invalid argument"
  | .nameTooLong => "File name too long"
  | .notEmpty => "Directory not empty"
  | .tooManyLinks => "Too many levels of symbolic links"

def shown (error : SystemError) : String := "[Errno " ++ toString error.number ++ "] " ++ error.text

def message (error : SystemError) (path : Text) : Text := error.shown ++ ": " ++ quoted path

end SystemError

inductive Fault where
  | wrongType
  | missingAttribute
  | indexOutOfRange
  | missingKey (key : Text)
  | noSweepValues
  | notASweepValue (part : Text)
  | notAnOverride (item : Text)
  | emptySweep
  | emptyCommand
  | integer (fault : IntegerFault)
  | integerOfNaN
  | integerOfInfinity
  | invalidPattern (pattern : Text) (fault : Regex.Malformed)
  | pattern (fault : Regex.Fault)
  | notAStep (value : Datum)
  | words (fault : WordFault)
  | planNotFound (path : Text)
  | planNotAMapping (path : Text)
  | missingKeys (keys : List Text)
  | badPolicy (value : Datum)
  | missingOptions (names : List String)
  | noCommand
  | document
  | calendar (fault : CalendarFault)
  | notANumber (text : Text)
  | badPair (index length : Nat)
  | codePointTooLarge
  | wordOverflow
  | wholeTooLarge
  | decoding (fault : Utf8.Malformed)
  | encoding (fault : Utf8.Unencodable)
  | system (error : SystemError) (path : Text)
  | nullByte
  | illegalVariable
  | unknownLevel (name : Text)
  | signalOutOfRange
  | signalRefused
  deriving Repr

namespace Fault

inductive Kind where
  | type
  | attribute
  | index
  | key
  | value
  | overflow
  | decoding
  | encoding
  | pattern
  | document
  | system (error : SystemError)
  deriving DecidableEq, Repr

def kind : Fault → Kind
  | .wrongType => .type
  | .missingAttribute => .attribute
  | .indexOutOfRange => .index
  | .missingKey _ => .key
  | .integerOfInfinity => .overflow
  | .pattern (.malformed _) => .pattern
  | .pattern .repetitionTooLarge => .overflow
  | .pattern .codePointTooWide => .overflow
  | .pattern (.unencodableName _) => .encoding
  | .wordOverflow => .overflow
  | .wholeTooLarge => .overflow
  | .planNotFound _ => .system .notFound
  | .document => .document
  | .decoding _ => .decoding
  | .encoding _ => .encoding
  | .system error _ => .system error
  | .signalRefused => .system .invalidArgument
  | _ => .value

-- A fault that says the input is wrong: of a value, of an encoding, or a plan that does not exist.
def isUsage (fault : Fault) : Bool :=
  [.value, .decoding, .encoding, .system .notFound].contains fault.kind

def message : Fault → Text
  | .wrongType => ""
  | .missingAttribute => ""
  | .indexOutOfRange => ""
  | .missingKey key => quoted key
  | .noSweepValues => "Sweep values must include at least one value"
  | .notASweepValue part => "Sweep value is not an integer: " ++ quoted part
  | .notAnOverride item => "Environment override must look like KEY=VALUE: " ++ quoted item
  | .emptySweep => "Sweep requires at least one value"
  | .emptyCommand => "Step command must not be empty"
  | .integer cause => cause.message
  | .integerOfNaN => "cannot convert float NaN to integer"
  | .integerOfInfinity => "cannot convert float infinity to integer"
  | .invalidPattern source fault => "Invalid pattern " ++ quoted source ++ ": " ++ fault.message
  | .pattern cause => cause.message
  | .notAStep value => "Step must be a mapping or a command string, got " ++ value.literal
  | .words cause => cause.message
  | .planNotFound path => "Plan file not found: " ++ path
  | .planNotAMapping path => "Plan file must contain a mapping: " ++ path
  | .missingKeys keys => "Plan is missing required keys: " ++ Text.intercalate ", " keys
  | .badPolicy value => value.literal ++ " is not a valid ErrorPolicy"
  | .missingOptions names => "Missing required options without --plan: " ++ ", ".intercalate names
  | .noCommand => "No command given: pass one after \x60--\x60 or list steps in the plan"
  | .document => ""
  | .calendar cause => cause.message
  | .notANumber text => "could not convert string to float: " ++ quoted text
  | .badPair index length =>
      "dictionary update sequence element #" ++ toString index ++ " has length " ++ toString length ++
        "; 2 is required"
  | .codePointTooLarge => "chr() arg not in range(0x110000)"
  | .wordOverflow => "Python int too large to convert to C int"
  | .wholeTooLarge => "int too large to convert to float"
  | .decoding cause => cause.message
  | .encoding cause => cause.message
  | .system error path => error.message path
  | .nullByte => "embedded null byte"
  | .illegalVariable => "illegal environment variable name"
  | .unknownLevel name => "Unknown level: " ++ quoted name
  | .signalOutOfRange => "signal number out of range"
  | .signalRefused => SystemError.invalidArgument.shown

end Fault

end ConstantSweep

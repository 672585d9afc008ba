import ConstantSweep.Text.Basic

set_option autoImplicit false

namespace ConstantSweep.Text

inductive WordFault where
  | openQuotation
  | openEscape
  deriving DecidableEq, Repr

def WordFault.message : WordFault → String
  | .openQuotation => "No closing quotation"
  | .openEscape => "No escaped character"

inductive WordMode where
  | between
  | bare
  | inQuotes (mark : Letter)
  | escaped (mark : Option Letter)
  deriving DecidableEq, Repr

def separatesWords (c : Letter) : Bool := c == ' ' || c == '\t' || c == '\r' || c == '\n'

-- The words of the rest. `word` holds the letters of the open word, last first. Between single
-- quotes nothing is special; between double ones a backslash stays unless it stands before a backslash or
-- a double quote.
def wordsFrom : WordMode → List Letter → List Letter → Except WordFault (List Text)
  | .between, _, [] => .ok []
  | .bare, word, [] => .ok [⟨word.reverse⟩]
  | .inQuotes _, _, [] => .error .openQuotation
  | .escaped _, _, [] => .error .openEscape
  | .between, word, c :: rest =>
      if separatesWords c then wordsFrom .between word rest
      else if c == '\\' then wordsFrom (.escaped none) [] rest
      else if c == '"' || c == '\'' then wordsFrom (.inQuotes c) [] rest
      else wordsFrom .bare [c] rest
  | .bare, word, c :: rest =>
      if separatesWords c then
        (wordsFrom .between [] rest).map (Text.ofList word.reverse :: ·)
      else if c == '\\' then wordsFrom (.escaped none) word rest
      else if c == '"' || c == '\'' then wordsFrom (.inQuotes c) word rest
      else wordsFrom .bare (c :: word) rest
  | .inQuotes mark, word, c :: rest =>
      if c == mark then wordsFrom .bare word rest
      else if c == '\\' && mark == '"' then wordsFrom (.escaped (some mark)) word rest
      else wordsFrom (.inQuotes mark) (c :: word) rest
  | .escaped none, word, c :: rest => wordsFrom .bare (c :: word) rest
  | .escaped (some mark), word, c :: rest =>
      if c == '\\' || c == mark then wordsFrom (.inQuotes mark) (c :: word) rest
      else wordsFrom (.inQuotes mark) (c :: '\\' :: word) rest

def words (line : Text) : Except WordFault (List Text) := wordsFrom .between [] line.toList

end ConstantSweep.Text

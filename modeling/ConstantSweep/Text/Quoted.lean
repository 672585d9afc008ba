import ConstantSweep.Text.Numeral
import ConstantSweep.Text.Printable

set_option autoImplicit false

namespace ConstantSweep.Text

def quoteMark (hasSingle hasDouble : Bool) : Letter :=
  if hasSingle && !hasDouble then '"' else '\''

def numericEscape (code : Nat) : List Char :=
  if code < 0x100 then ['\\', 'x'] ++ digitsIn 16 2 code
  else if code < 0x10000 then ['\\', 'u'] ++ digitsIn 16 4 code
  else ['\\', 'U'] ++ digitsIn 16 8 code

-- One letter between the given marks: the mark and the backslash take a backslash, tab and line ends have
-- their letters, what cannot be shown is escaped by number.
def quotedLetter (mark c : Letter) : List Letter :=
  if c == mark || c == '\\' then [.char '\\', c]
  else if c == '\t' then ['\\', 't']
  else if c == '\n' then ['\\', 'n']
  else if c == '\r' then ['\\', 'r']
  else if isPrintable c then [c]
  else (numericEscape c.code).map .char

def quotedLetters (text : List Letter) : List Letter :=
  let mark := quoteMark (text.contains '\'') (text.contains '"')
  mark :: text.flatMap (quotedLetter mark) ++ [mark]

def quoted (text : Text) : Text := ⟨quotedLetters text.toList⟩

def quotedBytes (bytes : List UInt8) : Text :=
  let mark := quoteMark (bytes.contains 39) (bytes.contains 34)
  let shown := bytes.flatMap fun byte =>
    if byte < 0x80 then quotedLetter mark (Char.ofNat byte.toNat)
    else (numericEscape byte.toNat).map .char
  ⟨.char 'b' :: mark :: shown ++ [mark]⟩

example : quoted "it's" = "\"it's\"" := by decide
example : quoted "a\x07\"'" = "'a\\x07\"\\''" := by decide

end ConstantSweep.Text

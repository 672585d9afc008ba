import ConstantSweep.Regex.Cursor
import ConstantSweep.Text.CharacterName

set_option autoImplicit false

namespace ConstantSweep.Regex

open ConstantSweep.Text

def controlEscape? : Char → Option Nat
  | 'a' => some 7
  | 'b' => some 8
  | 'f' => some 12
  | 'n' => some 10
  | 'r' => some 13
  | 't' => some 9
  | 'v' => some 11
  | '\\' => some 92
  | _ => none

def classEscape? : Char → Option SetItem
  | 'd' => some (.named false .digit)
  | 'D' => some (.named true .digit)
  | 's' => some (.named false .space)
  | 'S' => some (.named true .space)
  | 'w' => some (.named false .word)
  | 'W' => some (.named true .word)
  | _ => none

def anchorEscape? : Char → Option Anchor
  | 'A' => some .textStart
  | 'Z' => some .textEnd
  | 'b' => some .boundary
  | 'B' => some .notBoundary
  | _ => none

def takeCode (letter : Char) (count : Nat) : Reading Nat := do
  let digits ← takeSome isHexadecimal count
  let shown := Text.ofChars ('\\' :: letter :: digits)
  if digits.length ≠ count then complainAt (digits.length + 2) (.incompleteEscape shown)
  else
    let code := numberIn 16 digits
    if 0x7fffffff < code then throw .codePointTooWide
    else if 0x10ffff < code then complainAt (digits.length + 2) (.badEscape shown)
    else return code

def takeNamedCharacter : Reading Nat := do
  if !(← accept '{') then complain (.missing "\x7b")
  else
    let name := Text.ofList (← takeNameUntil '}' "character name")
    match Utf8.encode? name, name.string?.bind characterNamed? with
    | .error fault, _ => throw (.unencodableName fault)
    | .ok _, some code => return code
    | .ok _, none => complainAt (name.length + 4) (.undefinedCharacter name)

def takeCharacterEscape? (letter : Char) : Reading (Option Nat) := do
  match letter with
  | 'x' => return some (← takeCode 'x' 2)
  | 'u' => return some (← takeCode 'u' 4)
  | 'U' => return some (← takeCode 'U' 8)
  | 'N' => return some (← takeNamedCharacter)
  | _ => return none

def selfEscape (c : Char) : Reading Nat :=
  if c.isAlpha then complainAt 2 (.badEscape (.ofChars ['\\', c]))
  else return c.toNat

def octalCode (digits : List Char) : Reading Nat :=
  let code := numberIn 8 digits
  if 0o377 < code then
    complainAt (digits.length + 1) (.octalOutOfRange (.ofChars ('\\' :: digits)))
  else return code

def takeSetEscape : Letter → Reading SetItem
  | .half offset => return .char (Letter.half offset).code
  | .char letter => do
      match controlEscape? letter, classEscape? letter with
      | some code, _ => return .char code
      | none, some item => return item
      | none, none =>
          match ← takeCharacterEscape? letter with
          | some code => return .char code
          | none =>
              if isOctal letter then
                return .char (← octalCode (letter :: (← takeSome isOctal 2)))
              else if letter.isDigit then complainAt 2 (.badEscape (.ofChars ['\\', letter]))
              else return .char (← selfEscape letter)

def takeReference (digits : List Char) : Reading Node := do
  let group := numberIn 10 digits
  let cursor ← get
  if group < cursor.groupCount then
    if !cursor.isClosed group then complainAt (digits.length + 1) .openReference
    else
      checkLookbehind group
      return .backreference group
  else complainAt digits.length (.invalidReference group)

-- A backslash and digits: three octal ones name a character, otherwise up to two name a group.
def takeNumericEscape (first : Char) : Reading Node := do
  match ← peek with
  | some (.plain (.char second)) =>
      if second.isDigit then
        advance
        match ← peek with
        | some (.plain (.char third)) =>
            if isOctal first && isOctal second && isOctal third then
              advance
              return .char (← octalCode [first, second, third])
            else takeReference [first, second]
        | _ => takeReference [first, second]
      else takeReference [first]
  | _ => takeReference [first]

def takeEscape : Letter → Reading Node
  | .half offset => return .char (Letter.half offset).code
  | .char letter => do
      match anchorEscape? letter, classEscape? letter, controlEscape? letter with
      | some kind, _, _ => return .anchor kind
      | none, some item, _ => return .set false [item]
      | none, none, some code => return .char code
      | none, none, none =>
          match ← takeCharacterEscape? letter with
          | some code => return .char code
          | none =>
              if letter == '0' then return .char (numberIn 8 ('0' :: (← takeSome isOctal 2)))
              else if letter.isDigit then takeNumericEscape letter
              else return .char (← selfEscape letter)

end ConstantSweep.Regex

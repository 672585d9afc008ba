import ConstantSweep.Text.Numeral
import ConstantSweep.Yaml.Cursor

set_option autoImplicit false

namespace ConstantSweep.Yaml

open ConstantSweep.Text

-- What a line end between two pieces of text becomes: one alone is a blank, further ones stay.
def foldBreaks (first : List Char) (others : List Char) : List Char :=
  (if first != ['\n'] then first else if others.isEmpty then [' '] else []) ++ others

-- The line ends and blanks after the first line end of a plain scalar; `none` at a document mark.
def plainBreaks (found : List Char) : Nat → Scan (Option (List Char))
  | 0 => malformed
  | fuel + 1 => do
      let c ← peek
      if c == ' ' then
        forward
        plainBreaks found fuel
      else if isBreak c then
        let found := found ++ (← takeBreak)
        if ← atDocumentMark then return none else plainBreaks found fuel
      else return some found

def plainSpaces : Scan (List Char) := do
  let blanks ← takeWhile (· == ' ')
  if isBreak (← peek) then
    let first ← takeBreak
    modify fun scanner => { scanner with keyAllowed := true }
    if ← atDocumentMark then return []
    else
      match ← plainBreaks [] (← room) with
      | none => return []
      | some others => return foldBreaks first others
  else return blanks

-- The word at the front of a plain scalar: it ends at a gap, at a colon before one, and between flow
-- brackets also at their marks.
def plainWord (flow : Bool) : List Char → List Char
  | [] => []
  | c :: rest =>
      let next := rest.headD endMark
      let isMark (c : Char) : Bool := c == ',' || c == '[' || c == ']' || c == '{' || c == '}'
      if isGap c || (c == ':' && (isGap next || (flow && isMark next))) ||
          (flow && (isMark c || c == '?')) then []
      else c :: plainWord flow rest

def plainWords (indent : Int) (spaces : List Char) : Nat → Scan (List Char)
  | 0 => malformed
  | fuel + 1 => do
      let scanner ← get
      let flow := scanner.flowLevel != 0
      let word := plainWord flow scanner.rest
      if scanner.peekAt 0 == '#' || word.isEmpty then return []
      else
        modify fun scanner => { scanner with keyAllowed := false }
        forward word.length
        let after ← plainSpaces
        let scanner ← get
        if after.isEmpty || scanner.peekAt 0 == '#' || (!flow && (scanner.column : Int) < indent) then
          return spaces ++ word
        else return spaces ++ word ++ (← plainWords indent after fuel)

def takePlain : Scan Token := do
  let text ← plainWords ((← get).indent + 1) [] (← room)
  return .scalar (.ofChars text) true

def quotedBreaks (found : List Char) : Nat → Scan (List Char)
  | 0 => malformed
  | fuel + 1 => do
      if ← atDocumentMark then malformed
      else
        let _ ← takeWhile fun c => c == ' ' || c == '\t'
        if isBreak (← peek) then quotedBreaks (found ++ (← takeBreak)) fuel else return found

def quotedSpaces : Scan (List Char) := do
  let blanks ← takeWhile fun c => c == ' ' || c == '\t'
  let c ← peek
  if c == endMark then malformed
  else if isBreak c then
    let first ← takeBreak
    return foldBreaks first (← quotedBreaks [] (← room))
  else return blanks

def letterEscape? : Char → Option Char
  | '0' => some endMark
  | 'a' => some '\x07'
  | 'b' => some '\x08'
  | 't' => some '\t'
  | '\t' => some '\t'
  | 'n' => some '\n'
  | 'v' => some '\x0b'
  | 'f' => some '\x0c'
  | 'r' => some '\r'
  | 'e' => some '\x1b'
  | ' ' => some ' '
  | '"' => some '"'
  | '\\' => some '\\'
  | '/' => some '/'
  | 'N' => some '\u0085'
  | '_' => some '\u00a0'
  | 'L' => some '\u2028'
  | 'P' => some '\u2029'
  | _ => none

def codeLength? : Char → Option Nat
  | 'x' => some 2
  | 'u' => some 4
  | 'U' => some 8
  | _ => none

def takeEscape : Scan Text := do
  let c ← peek
  match letterEscape? c, codeLength? c with
  | some meant, _ =>
      forward
      return .ofLetter meant
  | none, some count =>
      forward
      let digits := (← get).rest.take count
      if digits.length < count || !digits.all isHexadecimal then malformed
      else
        let code := numberIn 16 digits
        if 0x7fffffff < code then throw .wordOverflow
        else if 0x10ffff < code then throw .codePointTooLarge
        else
          forward count
          return .ofLetter (.ofCode code)
  | none, none =>
      if isBreak c then
        let _ ← takeBreak
        return .ofChars (← quotedBreaks [] (← room))
      else malformed

def quotedWords (double : Bool) (text : Text) : Nat → Scan Text
  | 0 => malformed
  | fuel + 1 => do
      let word ← takeWhile fun c => c != '\'' && c != '"' && c != '\\' && !isGap c
      let text := text ++ Text.ofChars word
      let c ← peek
      if !double && c == '\'' && (← peek 1) == '\'' then
        forward 2
        quotedWords double (text ++ Text.ofLetter '\'') fuel
      else if (double && c == '\'') || (!double && (c == '"' || c == '\\')) then
        forward
        quotedWords double (text ++ Text.ofLetter c) fuel
      else if double && c == '\\' then
        forward
        let meant ← takeEscape
        quotedWords double (text ++ meant) fuel
      else return text

def quotedText (mark : Char) : Nat → Scan Text
  | 0 => malformed
  | fuel + 1 => do
      let words ← quotedWords (mark == '"') .empty (← room)
      if (← peek) == mark then return words
      else
        let spaces ← quotedSpaces
        return words ++ Text.ofChars spaces ++ (← quotedText mark fuel)

def takeQuoted : Scan Token := do
  let mark ← peek
  forward
  let text ← quotedText mark (← room)
  forward
  return .scalar text false

inductive Chomping where
  | clip
  | strip
  | keep
  deriving DecidableEq

def chompingOf? : Char → Option Chomping
  | '+' => some .keep
  | '-' => some .strip
  | _ => none

def takeIncrement? : Scan (Option Nat) := do
  let c ← peek
  if c.isDigit then
    if c == '0' then malformed
    else
      forward
      return some (c.toNat - 48)
  else return none

def takeChomping? : Scan (Option Chomping) := do
  match chompingOf? (← peek) with
  | some chomping =>
      forward
      return some chomping
  | none => return none

def takeBlockHeader : Scan (Chomping × Option Nat) := do
  let early ← takeChomping?
  let increment ← takeIncrement?
  let late ← if early.isNone && increment.isSome then takeChomping? else pure none
  if !isSpaceOrBreak (← peek) then malformed
  else return ((early.orElse fun _ => late).getD .clip, increment)

def takeEmptyRest : Scan Unit := do
  skipSpaces
  skipComment
  if isBreakOrEnd (← peek) then
    let _ ← takeBreak
  else malformed

-- Empty lines at the start of a block, and the widest indentation among them and the first line.
def blockStart (found : List Char) (widest : Nat) : Nat → Scan (List Char × Nat)
  | 0 => malformed
  | fuel + 1 => do
      let c ← peek
      if c == ' ' then
        forward
        blockStart found (max widest (← get).column) fuel
      else if isBreak c then
        let more ← takeBreak
        blockStart (found ++ more) widest fuel
      else return (found, widest)

def skipIndent (indent : Nat) : Nat → Scan Unit
  | 0 => return
  | fuel + 1 => do
      let scanner ← get
      if scanner.column < indent && scanner.peekAt 0 == ' ' then
        forward
        skipIndent indent fuel
      else return

def blockBreaks (indent : Nat) (found : List Char) : Nat → Scan (List Char)
  | 0 => malformed
  | fuel + 1 => do
      skipIndent indent (← room)
      if isBreak (← peek) then
        let more ← takeBreak
        blockBreaks indent (found ++ more) fuel
      else return found

-- The lines of a block. `breaks` are the empty lines before the next one; the result is their text, the
-- last line end, and the empty lines after it.
def blockLines (folded : Bool) (indent : Nat) (breaks : List Char) :
    Nat → Scan (List Char × List Char × List Char)
  | 0 => malformed
  | fuel + 1 => do
      let scanner ← get
      if scanner.column != indent || scanner.peekAt 0 == endMark then return ([], [], breaks)
      else
        let flush := scanner.peekAt 0 != ' ' && scanner.peekAt 0 != '\t'
        let line ← takeWhile fun c => !isBreak c
        let text := breaks ++ line
        let ending ← takeBreak
        let breaks ← blockBreaks indent [] (← room)
        let scanner ← get
        let next := scanner.peekAt 0
        if scanner.column == indent && next != endMark then
          let between :=
            if folded && ending == ['\n'] && flush && next != ' ' && next != '\t' then
              if breaks.isEmpty then [' '] else []
            else ending
          let (following, last, after) ← blockLines folded indent breaks fuel
          return (text ++ between ++ following, last, after)
        else return (text, ending, breaks)

def takeBlock : Scan Token := do
  let folded := (← peek) == '>'
  forward
  let (chomping, increment) ← takeBlockHeader
  takeEmptyRest
  let least := max 1 ((← get).indent + 1).toNat
  let (indent, breaks) ← match increment with
    | some increment => do
        let indent := least + increment - 1
        pure (indent, ← blockBreaks indent [] (← room))
    | none => do
        let (breaks, widest) ← blockStart [] 0 (← room)
        pure (max least widest, breaks)
  let (text, ending, after) ← blockLines folded indent breaks (← room)
  let tail := match chomping with
    | .strip => []
    | .clip => ending
    | .keep => ending ++ after
  return .scalar (.ofChars (text ++ tail)) false

end ConstantSweep.Yaml

import ConstantSweep.Fault

set_option autoImplicit false

namespace ConstantSweep.Yaml

def endMark : Char := Char.ofNat 0

def isBreak (c : Char) : Bool :=
  c == '\n' || c == '\r' || c == '\u0085' || c == '\u2028' || c == '\u2029'

def isBreakOrEnd (c : Char) : Bool := isBreak c || c == endMark

def isGap (c : Char) : Bool := c == ' ' || c == '\t' || isBreakOrEnd c

def isSpaceOrBreak (c : Char) : Bool := c == ' ' || isBreakOrEnd c

def isNameCharacter (c : Char) : Bool := c.isAlphanum || c == '-' || c == '_'

def isAllowed (c : Char) : Bool :=
  let code := c.toNat
  code == 9 || code == 10 || code == 13 || (32 ≤ code && code ≤ 126) || code == 0x85 ||
    (0xa0 ≤ code && code ≤ 0xfffd) || 0x10000 ≤ code

-- A simple key that may still turn out to be one: the number of its first token, whether only a key can
-- stand there, and where it begins.
structure KeyCandidate where
  token : Nat
  required : Bool
  index : Nat
  line : Nat
  column : Nat
  deriving Repr

inductive Token where
  | streamEnd
  | directive (name : String) (handle leading : String)
  | documentStart
  | documentEnd
  | blockSequenceStart
  | blockMappingStart
  | blockEnd
  | flowSequenceStart
  | flowMappingStart
  | flowSequenceEnd
  | flowMappingEnd
  | flowEntry
  | blockEntry
  | key
  | value
  | alias (name : String)
  | anchor (name : String)
  | tag (handle : Option String) (suffix : String)
  | scalar (text : Text) (plain : Bool)
  deriving DecidableEq, Repr

-- The tokens so far, last first, and what decides about the next ones. The index counts the characters of
-- the whole text that are behind.
structure Scanner where
  rest : List Char
  size : Nat
  index : Nat
  line : Nat
  column : Nat
  tokens : List Token
  tokenCount : Nat
  flowLevel : Int
  indent : Int
  indents : List Int
  keyAllowed : Bool
  candidates : List (Int × KeyCandidate)
  finished : Bool

abbrev Scan := StateT Scanner (Except Fault)

def malformed {α : Type} : Scan α := throw .document

namespace Scanner

def start (text : List Char) : Scanner :=
  ⟨text, text.length, 0, 0, 0, [], 0, 0, -1, [], true, [], false⟩

def peekAt (scanner : Scanner) (offset : Nat) : Char := (scanner.rest.drop offset).headD endMark

def step (scanner : Scanner) : Scanner :=
  match scanner.rest with
  | [] => scanner
  | c :: rest =>
      let scanner := { scanner with rest := rest, index := scanner.index + 1 }
      if isBreak c && !(c == '\r' && rest.head? == some '\n') then
        { scanner with line := scanner.line + 1, column := 0 }
      else if c == '\ufeff' then scanner
      else { scanner with column := scanner.column + 1 }

def steps (scanner : Scanner) : Nat → Scanner
  | 0 => scanner
  | count + 1 => scanner.step.steps count

end Scanner

def peek (offset : Nat := 0) : Scan Char := return (← get).peekAt offset

def forward (count : Nat := 1) : Scan Unit := modify fun scanner => scanner.steps count

def room : Scan Nat := return (← get).size - (← get).index + 2

def takeWhile (kind : Char → Bool) : Scan (List Char) := do
  let taken := (← get).rest.takeWhile kind
  forward taken.length
  return taken

def skipSpaces : Scan Unit := do
  let _ ← takeWhile (· == ' ')

def skipComment : Scan Unit := do
  if (← peek) == '#' then
    let _ ← takeWhile fun c => !isBreak c

def takeBreak : Scan (List Char) := do
  let c ← peek
  if c == '\r' && (← peek 1) == '\n' then
    forward 2
    return ['\n']
  else if c == '\n' || c == '\r' || c == '\u0085' then
    forward
    return ['\n']
  else if isBreak c then
    forward
    return [c]
  else return []

def atDocumentMark : Scan Bool := do
  let scanner ← get
  let mark := scanner.rest.take 3
  return (mark == ['-', '-', '-'] || mark == ['.', '.', '.']) && isGap (scanner.peekAt 3)

def emit (token : Token) : Scan Unit :=
  modify fun scanner => { scanner with tokens := token :: scanner.tokens, tokenCount := scanner.tokenCount + 1 }

def emitBefore (number : Nat) (token : Token) : Scan Unit :=
  modify fun scanner =>
    let later := scanner.tokenCount - number
    { scanner with
      tokens := scanner.tokens.take later ++ token :: scanner.tokens.drop later
      tokenCount := scanner.tokenCount + 1 }

end ConstantSweep.Yaml

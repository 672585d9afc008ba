import ConstantSweep.Shell.Command

set_option autoImplicit false

namespace ConstantSweep.Shell

structure Source where
  rest : Octets
  line : Nat
  deriving Repr

structure Complaint where
  line : Nat
  message : String
  deriving Repr

abbrev Reading := StateT Source (Except Complaint)

inductive Goal where
  | list
  | command
  deriving DecidableEq

def complain {α : Type} (message : String) : Reading α := do
  throw ⟨(← get).line, "Syntax error: " ++ message⟩

def skip (count : Nat) : Reading Unit :=
  modify fun source =>
    ⟨source.rest.drop count, source.line + (source.rest.take count).count '\n'⟩

def rest : Reading Octets := return (← get).rest

def isSeparator (c : Char) : Bool := " \t\n;&|<>()".toList.contains c

def isPlain (c : Char) : Bool := !isSeparator c && !"'\"\\$\x60".toList.contains c

def isNameStart (c : Char) : Bool := c.isAlpha || c == '_'

def isNamePart (c : Char) : Bool := c.isAlphanum || c == '_'

def reservedWords : List String :=
  ["if", "then", "elif", "else", "fi", "while", "until", "for", "in", "do", "done", "case", "esac",
   "\x7b", "\x7d", "!"]

def closingWords : List String := ["then", "elif", "else", "fi", "do", "done", "esac", "\x7d"]

def operators : List String :=
  ["&&", "||", ";;", ">>", "<<", ">&", "<&", ";", "&", "|", "(", ")", "<", ">"]

def skipBlanks (source : Source) : Source :=
  go source.line source.rest
where
  go (line : Nat) : Octets → Source
    | ' ' :: rest => go line rest
    | '\t' :: rest => go line rest
    | '\\' :: '\n' :: rest => go (line + 1) rest
    | '#' :: rest => ⟨rest.dropWhile (· != '\n'), line⟩
    | rest => ⟨rest, line⟩

def skipLines : Nat → Source → Source
  | 0, source => source
  | fuel + 1, source =>
      match skipBlanks source with
      | ⟨'\n' :: rest, line⟩ => skipLines fuel ⟨rest, line + 1⟩
      | source => source

def blanks : Reading Unit := modify skipBlanks

def newlines : Reading Unit := modify fun source => skipLines (source.rest.length + 1) source

def reserved? (octets : Octets) : Option String :=
  let word := octets.takeWhile isPlain
  let follows := octets.dropWhile isPlain
  let ends := match follows with
    | [] => true
    | c :: _ => isSeparator c
  if ends && reservedWords.contains (String.ofList word) then some (String.ofList word) else none

def tokenText (octets : Octets) : String :=
  match octets with
  | [] => "end of file"
  | '\n' :: _ => "newline"
  | octets =>
      match operators.find? fun operator => operator.toList.isPrefixOf octets with
      | some operator => "\"" ++ operator ++ "\""
      | none =>
          match reserved? octets with
          | some word => "\"" ++ word ++ "\""
          | none => "word"

def unexpected {α : Type} (expected : Option String) : Reading α := do
  let hint := match expected with
    | none => ""
    | some word => " (expecting \"" ++ word ++ "\")"
  complain (tokenText (← rest) ++ " unexpected" ++ hint)

def expect (word : String) : Reading Unit := do
  newlines
  if word.toList.isPrefixOf (← rest) then skip word.length else unexpected (some word)

inductive Span where
  | bare
  | doubleQuotes
  | braces (quoted : Bool)
  | arithmetic (depth : Nat)
  | document
  deriving DecidableEq

namespace Span

def isQuoted : Span → Bool
  | .bare => false
  | .doubleQuotes => true
  | .braces quoted => quoted
  | .arithmetic _ => true
  | .document => true

def ending? (span : Span) (octets : Octets) : Option Nat :=
  match span, octets with
  | .bare, [] => some 0
  | .bare, c :: _ => if isSeparator c then some 0 else none
  | .doubleQuotes, '"' :: _ => some 1
  | .braces _, '}' :: _ => some 1
  | .arithmetic 0, ')' :: ')' :: _ => some 2
  | .document, [] => some 0
  | _, _ => none

def after (span : Span) (c : Char) : Span :=
  match span with
  | .arithmetic depth =>
      if c == '(' then .arithmetic (depth + 1) else if c == ')' then .arithmetic (depth - 1) else span
  | span => span

-- A backslash takes the next character as it is; between double quotes only if that is special.
def escapes (span : Span) (c : Char) : Bool :=
  !span.isQuoted || "$\x60\\".toList.contains c || (span != .document && c == '"') ||
    (span == .braces true && c == '}')

end Span

def backQuoted (octets : Octets) : Option (Octets × Octets) :=
  match octets with
  | [] => none
  | '\x60' :: rest => some ([], rest)
  | '\\' :: c :: rest =>
      (backQuoted rest).map fun (inside, after) =>
        (if c == '\x60' || c == '\\' || c == '$' then (c :: inside, after) else ('\\' :: c :: inside, after))
  | c :: rest => (backQuoted rest).map fun (inside, after) => (c :: inside, after)

def readWithin (inner : Goal → Reading Command) (octets : Octets) : Reading Command := do
  let source ← get
  set (Source.mk octets source.line)
  let command ← inner .list
  newlines
  if !(← rest).isEmpty then unexpected none
  set source
  return command

def readUse (parts : Reading Word) : Reading Use := do
  match ← rest with
  | '}' :: _ => skip 1; return .value
  | ':' :: '-' :: _ => skip 2; return .orElse true (← parts)
  | ':' :: '=' :: _ => skip 2; return .orAssign true (← parts)
  | ':' :: '?' :: _ => skip 2; return .orComplain true (← parts)
  | ':' :: '+' :: _ => skip 2; return .ifSet true (← parts)
  | '-' :: _ => skip 1; return .orElse false (← parts)
  | '=' :: _ => skip 1; return .orAssign false (← parts)
  | '?' :: _ => skip 1; return .orComplain false (← parts)
  | '+' :: _ => skip 1; return .ifSet false (← parts)
  | '%' :: '%' :: _ => skip 2; return .without true true (← parts)
  | '%' :: _ => skip 1; return .without true false (← parts)
  | '#' :: '#' :: _ => skip 2; return .without false true (← parts)
  | '#' :: _ => skip 1; return .without false false (← parts)
  | _ => complain "Bad substitution"

def isSpecialParameter (c : Char) : Bool := c.isDigit || "@*#?$!-".toList.contains c

def bracedName (octets : Octets) : Octets :=
  match octets with
  | c :: _ =>
      if isNameStart c then octets.takeWhile isNamePart
      else if c.isDigit then octets.takeWhile Char.isDigit
      else if isSpecialParameter c then [c]
      else []
  | [] => []

def readDollar (inner : Goal → Reading Command) (parts : Span → Reading Word) (quoted : Bool) :
    Reading Part := do
  match ← rest with
  | '(' :: '(' :: _ => skip 2; return .arithmetic quoted (← parts (.arithmetic 0))
  | '(' :: _ =>
      skip 1
      let command ← inner .list
      expect ")"
      return .output quoted command
  | '{' :: '#' :: c :: _ =>
      if c == '}' then
        skip 3
        return .parameter quoted "#" .value
      else
        skip 2
        let name := bracedName (← rest)
        skip name.length
        match ← rest with
        | '}' :: _ => skip 1; return .parameter quoted (String.ofList name) .length
        | _ => complain "Bad substitution"
  | '{' :: _ =>
      skip 1
      let name := bracedName (← rest)
      if name.isEmpty then complain "Bad substitution"
      skip name.length
      return .parameter quoted (String.ofList name) (← readUse (parts (.braces quoted)))
  | c :: _ =>
      if isNameStart c then
        let name := (← rest).takeWhile isNamePart
        skip name.length
        return .parameter quoted (String.ofList name) .value
      else if isSpecialParameter c then
        skip 1
        return .parameter quoted (String.ofList [c]) .value
      else return .literal quoted ['$']
  | [] => return .literal quoted ['$']

def readParts (inner : Goal → Reading Command) : Nat → Span → Reading Word
  | 0, _ => complain "Unterminated quoted string"
  | fuel + 1, span => do
      let octets ← rest
      match span.ending? octets with
      | some count => skip count; return []
      | none =>
          match octets with
          | [] => complain "Unterminated quoted string"
          | '\\' :: '\n' :: _ => skip 2; readParts inner fuel span
          | '\\' :: c :: _ =>
              skip 2
              let part := Part.literal true (if span.escapes c then [c] else ['\\', c])
              return part :: (← readParts inner fuel span)
          | '$' :: _ =>
              skip 1
              let part ← readDollar inner (readParts inner fuel) span.isQuoted
              return part :: (← readParts inner fuel span)
          | '\x60' :: after =>
              match backQuoted after with
              | none => complain "EOF in backquote substitution"
              | some (inside, following) =>
                  let command ← readWithin inner inside
                  skip (octets.length - following.length)
                  return .output span.isQuoted command :: (← readParts inner fuel span)
          | '\'' :: after =>
              if span.isQuoted then
                skip 1
                return .literal true ['\''] :: (← readParts inner fuel span)
              else
                let inside := after.takeWhile (· != '\'')
                if inside.length == after.length then complain "Unterminated quoted string"
                skip (inside.length + 2)
                return .literal true inside :: (← readParts inner fuel span)
          | '"' :: _ =>
              skip 1
              if span == .document then
                return .literal true ['"'] :: (← readParts inner fuel span)
              else
                let inside ← readParts inner fuel .doubleQuotes
                let inside := if inside.isEmpty then [Part.literal true []] else inside
                return inside ++ (← readParts inner fuel span)
          | c :: _ =>
              skip 1
              return .literal span.isQuoted [c] :: (← readParts inner fuel (span.after c))

def readWord (inner : Goal → Reading Command) : Reading Word := do
  blanks
  match (← readParts inner ((← rest).length + 1) .bare) with
  | [] => unexpected none
  | word => return word

-- The redirection operator with which the rest begins: its channel, its sign and its length.
def redirection? (octets : Octets) : Option (Nat × String × Nat) :=
  let digits := octets.takeWhile Char.isDigit
  let after := octets.dropWhile Char.isDigit
  match [">>", ">&", ">|", "<<-", "<<", "<&", ">", "<"].find? fun sign => sign.toList.isPrefixOf after with
  | none => none
  | some sign =>
      let standard := if sign.toList.head? == some '<' then 0 else 1
      let channel := if digits.isEmpty then standard else ((readDecimal digits).getD 0).toNat
      some (channel, sign, digits.length + sign.length)

def documentLines (stripsTabs : Bool) (mark : Octets) : Nat → Octets → Octets × Octets
  | 0, octets => ([], octets)
  | fuel + 1, octets =>
      let line := octets.takeWhile (· != '\n')
      let line := if stripsTabs then line.dropWhile (· == '\t') else line
      let after := (octets.dropWhile (· != '\n')).drop 1
      if octets.isEmpty then ([], [])
      else if line == mark then ([], after)
      else
        let (text, after) := documentLines stripsTabs mark fuel after
        (line ++ '\n' :: text, after)

def Part.text? : Part → Option Octets
  | .literal _ octets => some octets
  | _ => none

def Part.isQuotedText : Part → Bool
  | .literal quoted _ => quoted
  | _ => false

-- Reads a document. Its lines follow the line that announces it, and are taken out of the script. If its
-- mark is quoted, it is taken as it is.
def readDocument (inner : Goal → Reading Command) (stripsTabs : Bool) : Reading Word := do
  let word ← readWord inner
  let mark := (word.filterMap Part.text?).flatten
  let source ← get
  let line := source.rest.takeWhile (· != '\n')
  let below := source.rest.drop (line.length + 1)
  let (text, after) := documentLines stripsTabs mark (below.length + 1) below
  let remaining : Source := ⟨line ++ '\n' :: after, source.line⟩
  if word.any Part.isQuotedText then
    set remaining
    return [.literal true text]
  else
    set (Source.mk text (source.line + 1))
    let parts ← readParts inner (text.length + 1) .document
    set remaining
    return parts

def readRedirection (inner : Goal → Reading Command) : Reading (Option Redirection) := do
  blanks
  match redirection? (← rest) with
  | none => return none
  | some (channel, sign, length) =>
      skip length
      match sign with
      | "<<-" => return some (.document channel (← readDocument inner true))
      | "<<" => return some (.document channel (← readDocument inner false))
      | ">>" => return some (.output channel true (← readWord inner))
      | ">&" => return some (.copy channel (← readWord inner))
      | "<&" => return some (.copy channel (← readWord inner))
      | "<" => return some (.input channel (← readWord inner))
      | _ => return some (.output channel false (← readWord inner))

def readRedirections (inner : Goal → Reading Command) : Nat → Reading (List Redirection)
  | 0 => return []
  | fuel + 1 => do
      match ← readRedirection inner with
      | none => return []
      | some redirection => return redirection :: (← readRedirections inner fuel)

def assigned? (octets : Octets) : Option String :=
  let name := octets.takeWhile isNamePart
  match octets, octets.dropWhile isNamePart with
  | c :: _, '=' :: _ => if isNameStart c then some (String.ofList name) else none
  | _, _ => none

def plainText? (word : Word) : Option String :=
  (word.mapM fun part =>
    match part with
    | Part.literal false octets => some octets
    | _ => none).map fun (parts : List Octets) => String.ofList parts.flatten

def readSimple (inner : Goal → Reading Command) (line : Nat) :
    Nat → List (String × Word) → List Word → List Redirection → Reading Command
  | 0, _, _, _ => unexpected none
  | fuel + 1, assignments, words, redirections => do
      match ← readRedirection inner with
      | some redirection =>
          readSimple inner line fuel assignments words (redirections ++ [redirection])
      | none =>
          let octets ← rest
          let ends := match octets with
            | [] => true
            | c :: _ => isSeparator c
          if ends then
            match words, octets with
            | [word], '(' :: _ =>
                match plainText? word with
                | some name =>
                    skip 1
                    expect ")"
                    newlines
                    return .define name (← inner .command)
                | none => unexpected none
            | _, _ =>
                if assignments.isEmpty && words.isEmpty && redirections.isEmpty then unexpected none
                return .simple line assignments words redirections
          else
            match words, assigned? octets with
            | [], some name =>
                skip (name.length + 1)
                let value ← readParts inner ((← rest).length + 1) .bare
                readSimple inner line fuel (assignments ++ [(name, value)]) words redirections
            | _, _ =>
                let word ← readWord inner
                readSimple inner line fuel assignments (words ++ [word]) redirections

def readBranch (inner : Goal → Reading Command) : Nat → Reading Command
  | 0 => unexpected none
  | fuel + 1 => do
      let test ← inner .list
      expect "then"
      let yes ← inner .list
      newlines
      match reserved? (← rest) with
      | some "elif" => skip 4; return .branch test yes (← readBranch inner fuel)
      | some "else" =>
          skip 4
          let no ← inner .list
          expect "fi"
          return .branch test yes no
      | _ => expect "fi"; return .branch test yes .nothing

def readWords (inner : Goal → Reading Command) : Nat → Reading (List Word)
  | 0 => return []
  | fuel + 1 => do
      blanks
      match ← rest with
      | [] => return []
      | c :: _ => if isSeparator c then return [] else return (← readWord inner) :: (← readWords inner fuel)

def separator : Reading Unit := do
  blanks
  match ← rest with
  | ';' :: _ => skip 1
  | _ => pure ()
  newlines

def readLoopBody (inner : Goal → Reading Command) : Reading Command := do
  expect "do"
  let body ← inner .list
  expect "done"
  return body

def readForEach (inner : Goal → Reading Command) : Reading Command := do
  blanks
  let name := (← rest).takeWhile isNamePart
  if name.isEmpty then complain "Bad for loop variable"
  skip name.length
  newlines
  let words ←
    if reserved? (← rest) == some "in" then do
      skip 2
      pure (some (← readWords inner ((← rest).length + 1)))
    else pure none
  separator
  return .forEach (String.ofList name) words (← readLoopBody inner)

def readPatterns (inner : Goal → Reading Command) : Nat → Reading (List Word)
  | 0 => unexpected (some ")")
  | fuel + 1 => do
      let word ← readWord inner
      blanks
      match ← rest with
      | '|' :: _ => skip 1; return word :: (← readPatterns inner fuel)
      | ')' :: _ => skip 1; return [word]
      | _ => unexpected (some ")")

def readArms (inner : Goal → Reading Command) : Nat → Reading (List (List Word × Command))
  | 0 => unexpected (some "esac")
  | fuel + 1 => do
      newlines
      if reserved? (← rest) == some "esac" then
        skip 4
        return []
      match ← rest with
      | '(' :: _ => skip 1
      | _ => pure ()
      let patterns ← readPatterns inner ((← rest).length + 1)
      let body ← inner .list
      newlines
      match ← rest with
      | ';' :: ';' :: _ => skip 2; return (patterns, body) :: (← readArms inner fuel)
      | _ => expect "esac"; return [(patterns, body)]

def readChoice (inner : Goal → Reading Command) : Reading Command := do
  let word ← readWord inner
  newlines
  expect "in"
  return .choice word (← readArms inner ((← rest).length + 1))

def readCommand (inner : Goal → Reading Command) : Reading Command := do
  blanks
  let source ← get
  let fuel := source.rest.length + 1
  let compound (command : Reading Command) : Reading Command := do
    let command ← command
    let redirections ← readRedirections inner fuel
    return if redirections.isEmpty then command else .redirected command redirections
  match source.rest with
  | '(' :: _ => compound do
      skip 1
      let command ← inner .list
      expect ")"
      return .subshell command
  | octets =>
      match reserved? octets with
      | some "\x7b" => compound do
          skip 1
          let command ← inner .list
          expect "\x7d"
          return command
      | some "if" => compound do
          skip 2
          readBranch inner fuel
      | some "while" => compound do
          skip 5
          let test ← inner .list
          return .loop false test (← readLoopBody inner)
      | some "until" => compound do
          skip 5
          let test ← inner .list
          return .loop true test (← readLoopBody inner)
      | some "for" => compound do
          skip 3
          readForEach inner
      | some "case" => compound do
          skip 4
          readChoice inner
      | some _ => unexpected none
      | none => readSimple inner source.line fuel [] [] []

def readStages (inner : Goal → Reading Command) : Nat → Reading (List Command)
  | 0 => unexpected none
  | fuel + 1 => do
      let command ← readCommand inner
      blanks
      match ← rest with
      | '|' :: '|' :: _ => return [command]
      | '|' :: _ =>
          skip 1
          newlines
          return command :: (← readStages inner fuel)
      | _ => return [command]

def readPipeline (inner : Goal → Reading Command) : Reading Command := do
  blanks
  let negates := reserved? (← rest) == some "!"
  if negates then skip 1
  let stages ← readStages inner ((← rest).length + 1)
  let command := match stages with
    | [command] => command
    | stages => .pipeline stages
  return if negates then .negated command else command

def readDependent (inner : Goal → Reading Command) : Nat → Command → Reading Command
  | 0, command => return command
  | fuel + 1, command => do
      blanks
      match ← rest with
      | '&' :: '&' :: _ =>
          skip 2
          newlines
          readDependent inner fuel (.both command (← readPipeline inner))
      | '|' :: '|' :: _ =>
          skip 2
          newlines
          readDependent inner fuel (.either command (← readPipeline inner))
      | _ => return command

def readItem (inner : Goal → Reading Command) : Reading Command := do
  let command ← readPipeline inner
  readDependent inner ((← rest).length + 1) command

def endsList (octets : Octets) : Bool :=
  match octets with
  | [] => true
  | ')' :: _ => true
  | ';' :: ';' :: _ => true
  | octets =>
      match reserved? octets with
      | some word => closingWords.contains word
      | none => false

-- Reads commands with semicolons or line ends between them. If `oneLine`, a line end ends the list. What
-- runs beside the others is run on its own.
def readItems (inner : Goal → Reading Command) (oneLine : Bool) : Nat → Reading (List Command)
  | 0 => return []
  | fuel + 1 => do
      if oneLine then blanks else newlines
      if endsList (← rest) then return []
      let command ← readItem inner
      blanks
      match ← rest with
      | ';' :: ';' :: _ => return [command]
      | ';' :: _ => skip 1; return command :: (← readNext fuel)
      | '&' :: _ => skip 1; return .subshell command :: (← readNext fuel)
      | '\n' :: _ =>
          if oneLine then return [command]
          return command :: (← readItems inner oneLine fuel)
      | _ => return [command]
where
  readNext (fuel : Nat) : Reading (List Command) := do
    blanks
    match ← rest with
    | '\n' :: _ => if oneLine then return [] else readItems inner oneLine fuel
    | _ => readItems inner oneLine fuel

def readGoal : Nat → Goal → Reading Command
  | 0, _ => unexpected none
  | fuel + 1, goal =>
      match goal with
      | .command => readCommand (readGoal fuel)
      | .list => do
          let items ← readItems (readGoal fuel) false ((← rest).length + 1)
          match items with
          | [command] => return command
          | commands => return .sequence commands

-- The commands of the lines of a script. What is wrong with a line shows only when it is reached.
def readLines : Nat → Source → List (Except Complaint Command)
  | 0, _ => []
  | fuel + 1, source =>
      let source := skipLines (source.rest.length + 1) source
      if source.rest.isEmpty then []
      else
        let depth := source.rest.length + 1
        let read : Reading Command := do
          let commands ← readItems (readGoal depth) true depth
          match ← rest with
          | [] => return .sequence commands
          | '\n' :: _ => return .sequence commands
          | _ => unexpected none
        match read source with
        | .error complaint => [.error complaint]
        | .ok (command, after) => .ok command :: readLines fuel after

def readScript (script : Octets) : List (Except Complaint Command) :=
  readLines (script.length + 1) ⟨script, 1⟩

end ConstantSweep.Shell

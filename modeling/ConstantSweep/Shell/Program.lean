import ConstantSweep.Regex.Reader
import ConstantSweep.Regex.Search
import ConstantSweep.Shell.Condition
import ConstantSweep.Shell.Format
import ConstantSweep.Text.Blank
import ConstantSweep.Text.Lines

set_option autoImplicit false

namespace ConstantSweep.Shell

open ConstantSweep.Text

structure Call where
  name : Octets
  arguments : List Octets
  input : Octets
  tree : FileTree
  here : List Text

-- What a program leaves: its status, what it wrote to which channel, the tree, and whether it read its
-- input.
structure Reaction where
  status : Nat
  written : List (Nat × Octets)
  tree : FileTree
  readsInput : Bool

namespace Call

def endsWith (call : Call) (status : Nat) : Reaction := ⟨status, [], call.tree, false⟩

def place (call : Call) (name : Octets) : Except SystemError (List Text) :=
  let path := Path.ofText name.name
  if name.isEmpty || path.isAbsolute then .error .notFound else call.tree.walk call.here path.parts

def entry (call : Call) (name : Octets) : Except SystemError Entry := do
  match call.tree.at? (← call.place name) with
  | some entry => return entry
  | none => throw .notFound

def contents (call : Call) (name : Octets) : Except SystemError Octets := do
  if name == ['-'] then return call.input
  if name == "/dev/null".toList then return []
  match ← call.entry name with
  | .file bytes _ => return Octets.ofBytes bytes
  | .directory => throw .isDirectory

end Call

namespace Reaction

def write (reaction : Reaction) (text : Octets) : Reaction :=
  if text.isEmpty then reaction else { reaction with written := reaction.written ++ [(1, text)] }

def complain (reaction : Reaction) (name : Octets) (message : Octets) (status : Nat) : Reaction :=
  { reaction with
    written := reaction.written ++ [(2, name ++ ": ".toList ++ message ++ ['\n'])]
    status := status }

end Reaction

def optionLetters : List Octets → Octets × List Octets
  | ['-', '-'] :: rest => ([], rest)
  | ('-' :: c :: letters) :: rest =>
      let (more, rest) := optionLetters rest
      (c :: letters ++ more, rest)
  | rest => ([], rest)

def joined (arguments : List Octets) : Octets := [' '].intercalate arguments

def echoPlain (call : Call) : Reaction :=
  match call.arguments with
  | ['-', 'n'] :: rest => (call.endsWith 0).write (joined rest)
  | ['-', 'e'] :: rest =>
      let text := joined rest
      let (text, goesOn) := unescapeText (text.length + 1) text
      (call.endsWith 0).write (if goesOn then text ++ ['\n'] else text)
  | arguments => (call.endsWith 0).write (joined arguments ++ ['\n'])

def echoEscaped (call : Call) : Reaction :=
  let (arguments, ending) := match call.arguments with
    | ['-', 'n'] :: rest => (rest, [])
    | arguments => (arguments, ['\n'])
  let text := joined arguments
  let (text, goesOn) := unescapeText (text.length + 1) text
  (call.endsWith 0).write (if goesOn then text ++ ending else text)

def printf (call : Call) : Reaction :=
  let arguments := match call.arguments with
    | ['-', '-'] :: rest => rest
    | arguments => arguments
  match arguments with
  | [] => (call.endsWith 0).complain call.name "usage: printf format [arg ...]".toList 2
  | format :: arguments =>
      let formatted := formatAll format (arguments.length + 1) arguments
      formatted.faults.foldl
        (fun reaction argument => reaction.complain call.name (argument ++ ": expected numeric value".toList) 1)
        ((call.endsWith 0).write formatted.text)

def systemMessage (error : SystemError) : Octets := error.text.toList

def sources (arguments : List Octets) : List Octets := if arguments.isEmpty then [['-']] else arguments

def eachFile (call : Call) (names : List Octets) (status : Nat) (start : Reaction)
    (use : Reaction → Octets → Octets → Reaction) : Reaction :=
  names.foldl
    (fun reaction name =>
      match call.contents name with
      | .ok contents => use { reaction with readsInput := reaction.readsInput || name == ['-'] } name contents
      | .error error => reaction.complain call.name (name ++ ": ".toList ++ systemMessage error) status)
    start

def cat (call : Call) : Reaction :=
  let (_, names) := optionLetters call.arguments
  eachFile call (sources names) 1 (call.endsWith 0) fun reaction _ contents => reaction.write contents

def condition (call : Call) : Reaction :=
  match holds call.tree call.here call.arguments with
  | .ok true => call.endsWith 0
  | .ok false => call.endsWith 1
  | .error fault => (call.endsWith 0).complain call.name fault.message 2

def bracketCondition (call : Call) : Reaction :=
  match call.arguments.getLast? with
  | some [']'] => condition { call with arguments := call.arguments.dropLast }
  | _ => (call.endsWith 0).complain call.name "missing ]".toList 2

def extendedOf : Octets → Octets
  | [] => []
  | '\\' :: c :: rest =>
      if "(){}|+?".toList.contains c then c :: extendedOf rest else '\\' :: c :: extendedOf rest
  | c :: rest =>
      if "(){}|+?".toList.contains c then '\\' :: c :: extendedOf rest else c :: extendedOf rest

def escapedPattern (pattern : Octets) : Octets :=
  pattern.flatMap fun c => if c.isAlphanum || c == '_' || c.toNat ≥ 128 then [c] else ['\\', c]

def lineMatcher? (letters : Octets) (pattern : Octets) : Option (Octets → Bool) :=
  let extended :=
    if letters.contains 'F' then escapedPattern pattern
    else if letters.contains 'E' then pattern
    else extendedOf pattern
  let whole := if letters.contains 'x' then "^(?:".toList ++ extended ++ ")$".toList else extended
  let source := if letters.contains 'i' then "(?i)".toList ++ whole else whole
  match Regex.Pattern.ofText (Octets.text source) with
  | .error _ => none
  | .ok compiled =>
      some fun line => compiled.search (Octets.text line).toList != letters.contains 'v'

def shownMatches (letters : Octets) (label : Octets) (found : List (Nat × Octets)) : Octets :=
  if letters.contains 'c' then label ++ Octets.ofNat found.length ++ ['\n']
  else
    found.flatMap fun (number, line) =>
      label ++ (if letters.contains 'n' then Octets.ofNat number ++ [':'] else []) ++ line ++ ['\n']

def grep (call : Call) : Reaction :=
  let (letters, rest) := optionLetters call.arguments
  match rest with
  | [] => (call.endsWith 0).complain call.name "no pattern".toList 2
  | pattern :: names =>
      match lineMatcher? letters pattern with
      | none => (call.endsWith 0).complain call.name "Invalid regular expression".toList 2
      | some accepts =>
          let isQuiet := letters.contains 'q'
          let reaction := eachFile call (sources names) 2 (call.endsWith 1) fun reaction name contents =>
            let found := ((linesOf contents).zipIdx 1).filterMap fun (line, number) =>
              if accepts line then some (number, line) else none
            let label := if names.length > 1 && !letters.contains 'h' then name ++ [':'] else []
            let status :=
              if found.isEmpty then reaction.status
              else if reaction.status == 1 then 0 else reaction.status
            let reaction := { reaction with status := status }
            if isQuiet then reaction
            else if letters.contains 'l' then
              reaction.write (if found.isEmpty then [] else name ++ ['\n'])
            else reaction.write (shownMatches letters label found)
          reaction

def eachPlace (call : Call) (names : List Octets) (verb : String)
    (act : FileTree → List Text → Except SystemError FileTree) : Reaction :=
  names.foldl
    (fun reaction name =>
      match ({ call with tree := reaction.tree }.place name).bind (act reaction.tree) with
      | .ok tree => { reaction with tree := tree }
      | .error error =>
          reaction.complain call.name
            (verb.toList ++ " '".toList ++ name ++ "': ".toList ++ systemMessage error) 1)
    (call.endsWith 0)

def removeAll (tree : FileTree) (place : List Text) : FileTree :=
  ⟨tree.entries.filter fun entry => !place.isPrefixOf entry.1⟩

def rm (call : Call) : Reaction :=
  let (letters, names) := optionLetters call.arguments
  let forced := letters.contains 'f'
  let deep := letters.contains 'r' || letters.contains 'R'
  let gone (name : Octets) : Bool := (call.entry name).toOption.isNone
  let names := if forced then names.filter fun name => !gone name else names
  if names.isEmpty && !forced && call.arguments.isEmpty then
    (call.endsWith 0).complain call.name "missing operand".toList 1
  else
    eachPlace call names "cannot remove" fun tree place =>
      match tree.at? place with
      | none => .error .notFound
      | some .directory => if deep then .ok (removeAll tree place) else .error .isDirectory
      | some (.file _ _) => .ok (tree.remove place)

def rmdir (call : Call) : Reaction :=
  let (_, names) := optionLetters call.arguments
  eachPlace call names "failed to remove" fun tree place =>
    match tree.at? place with
    | none => .error .notFound
    | some (.file _ _) => .error .notDirectory
    | some .directory =>
        if (removeAll tree place).entries.length + 1 == tree.entries.length then .ok (tree.remove place)
        else .error .notEmpty

def mkdir (call : Call) : Reaction :=
  let (letters, names) := optionLetters call.arguments
  if letters.contains 'p' then
    names.foldl
      (fun reaction name =>
        let path := Path.ofText name.name
        match reaction.tree.ensureDirectory ⟨0, call.here ++ path.parts⟩ with
        | .ok tree => { reaction with tree := tree }
        | .error _ =>
            reaction.complain call.name
              ("cannot create directory '".toList ++ name ++ "': File exists".toList) 1)
      (call.endsWith 0)
  else
    eachPlace call names "cannot create directory" fun tree place =>
      match tree.at? place with
      | some _ => .error .exists
      | none => .ok (tree.put place .directory)

def touch (call : Call) : Reaction :=
  let (_, names) := optionLetters call.arguments
  eachPlace call names "cannot touch" fun tree place =>
    match tree.at? place with
    | some _ => .ok tree
    | none => .ok (tree.put place (.file [] false))

def chmod (call : Call) : Reaction :=
  match call.arguments with
  | mode :: names =>
      let sets := mode.getLast? == some 'x' || (mode.any fun c => c.isDigit && c.toNat % 2 == 1)
      let clears := mode.contains '-'
      eachPlace call names "cannot access" fun tree place =>
        match tree.at? place with
        | some (.file bytes _) => .ok (tree.put place (.file bytes (sets && !clears)))
        | some .directory => .ok tree
        | none => .error .notFound
  | [] => (call.endsWith 0).complain call.name "missing operand".toList 1

-- The place that a file gets when it is copied or moved: inside a directory it keeps its name.
def destination (tree : FileTree) (source target : List Text) : List Text :=
  match tree.at? target with
  | some .directory => target ++ source.getLast?.toList
  | _ => target

def transfer (call : Call) (keeps : Bool) : Reaction :=
  let (_, names) := optionLetters call.arguments
  match names.getLast? with
  | none => (call.endsWith 0).complain call.name "missing file operand".toList 1
  | some last =>
      match call.place last with
      | .error error =>
          (call.endsWith 0).complain call.name
            ("cannot create regular file '".toList ++ last ++ "': ".toList ++ systemMessage error) 1
      | .ok target =>
          eachPlace call names.dropLast "cannot stat" fun tree place =>
            match tree.at? place with
            | some (.file bytes executable) =>
                let copied := tree.put (destination tree place target) (.file bytes executable)
                .ok (if keeps then copied else copied.remove place)
            | some .directory => .error .isDirectory
            | none => .error .notFound

def wc (call : Call) : Reaction :=
  let (letters, names) := optionLetters call.arguments
  eachFile call (sources names) 1 (call.endsWith 0) fun reaction name contents =>
    let words := (runsOf (fun c => c == ' ' || c == '\t' || c == '\n') contents).length
    let counts :=
      (if letters.contains 'l' then [contents.count '\n'] else []) ++
      (if letters.contains 'w' then [words] else []) ++
      (if letters.contains 'c' then [contents.length] else [])
    let counts := if counts.isEmpty then [contents.count '\n', words, contents.length] else counts
    let width := if counts.length > 1 then 7 else 0
    let texts := counts.map fun count => Layout.pad ⟨[], width, none⟩ (Octets.ofNat count)
    let label := if names.isEmpty then [] else ' ' :: name
    reaction.write (joined texts ++ label ++ ['\n'])

def lineCount (arguments : List Octets) : Nat × List Octets :=
  match arguments with
  | ['-', 'n'] :: count :: rest => (((readDecimal count).getD 10).toNat, rest)
  | ('-' :: 'n' :: count) :: rest => (((readDecimal count).getD 10).toNat, rest)
  | ('-' :: count) :: rest =>
      match readDecimal count with
      | some count => (count.toNat, rest)
      | none => (10, ('-' :: count) :: rest)
  | rest => (10, rest)

def byteCount? (arguments : List Octets) : Option (Nat × List Octets) :=
  match arguments with
  | ['-', 'c'] :: count :: rest => (readDecimal count).map fun count => (count.toNat, rest)
  | ('-' :: 'c' :: count) :: rest => (readDecimal count).map fun count => (count.toNat, rest)
  | _ => none

def head (call : Call) : Reaction :=
  match byteCount? call.arguments with
  | some (count, names) =>
      if names == ["/dev/zero".toList] then (call.endsWith 0).write (List.replicate count '\x00')
      else
        eachFile call (sources names) 1 (call.endsWith 0) fun reaction _ contents =>
          reaction.write (contents.take count)
  | none =>
      let (count, names) := lineCount call.arguments
      eachFile call (sources names) 1 (call.endsWith 0) fun reaction _ contents =>
        reaction.write ((splitAfter (· == '\n') contents).take count).flatten

def tail (call : Call) : Reaction :=
  let (count, names) := lineCount call.arguments
  eachFile call (sources names) 1 (call.endsWith 0) fun reaction _ contents =>
    let lines := splitAfter (· == '\n') contents
    reaction.write (lines.drop (lines.length - count)).flatten

def sort (call : Call) : Reaction :=
  let (letters, names) := optionLetters call.arguments
  let read := eachFile call (sources names) 2 (call.endsWith 0) fun reaction _ contents =>
    reaction.write contents
  let text := (read.written.filter fun entry => entry.1 == 1).flatMap fun entry => entry.2
  let numeric (line : Octets) : Int := (readDecimal (line.takeWhile fun c => c.isDigit || c == '-')).getD 0
  let before (left right : Octets) : Bool :=
    if letters.contains 'n' && numeric left != numeric right then numeric left < numeric right
    else !right.lex left fun a b => a.toNat < b.toNat
  let sorted := (linesOf text).mergeSort before
  let sorted := if letters.contains 'u' then sorted.eraseDups else sorted
  let sorted := if letters.contains 'r' then sorted.reverse else sorted
  { read with
    written := (read.written.filter fun entry => entry.1 != 1) ++
      [(1, sorted.flatMap fun line => line ++ ['\n'])] }

-- The characters of a set: escapes are replaced, and two characters with a dash between them stand for all
-- from one to the other.
def charactersOf : Octets → Octets
  | first :: '-' :: last :: rest =>
      (List.range (last.toNat + 1 - first.toNat)).map (fun index => Char.ofNat (first.toNat + index)) ++
        charactersOf rest
  | c :: rest => c :: charactersOf rest
  | [] => []

def setOf (argument : Octets) : Octets :=
  let unescaped (text : Octets) : Octets := (unescapeText (text.length + 1) text).1
  match argument with
  | '\\' :: c :: rest =>
      if isOctal c then unescaped ('\\' :: '0' :: c :: rest) else charactersOf (unescaped argument)
  | argument => charactersOf (unescaped argument)

-- Replaces the characters of one set by those of another, whose last one stands for all that are missing;
-- or takes them away.
def tr (call : Call) : Reaction :=
  let reaction := { call.endsWith 0 with readsInput := true }
  match call.arguments with
  | [['-', 'd'], taken] => reaction.write (call.input.filter fun c => !(setOf taken).contains c)
  | [wanted, given] =>
      let given := setOf given
      let pairs := (setOf wanted).zipIdx.map fun (c, index) => (c, (given[index]?.or given.getLast?).getD c)
      reaction.write (call.input.map fun c => (pairs.lookup c).getD c)
  | _ => reaction.complain call.name "missing operand".toList 1

def seq (call : Call) : Reaction :=
  let count (first step last : Int) : Reaction :=
    let amount :=
      if step > 0 then (last - first + step) / step
      else if step < 0 then (first - last - step) / -step
      else 0
    (call.endsWith 0).write ((List.range amount.toNat).flatMap fun (index : Nat) =>
      Octets.ofInt (first + step * (index : Int)) ++ ['\n'])
  match call.arguments.map readDecimal with
  | [some last] => count 1 1 last
  | [some first, some last] => count first 1 last
  | [some first, some step, some last] => count first step last
  | _ => (call.endsWith 0).complain call.name "invalid argument".toList 1

def tee (call : Call) : Reaction :=
  let (letters, names) := optionLetters call.arguments
  let reaction := eachPlace call names "cannot open" fun tree place =>
    match tree.at? place with
    | some .directory => .error .isDirectory
    | some (.file bytes executable) =>
        .ok (tree.put place
          (.file ((if letters.contains 'a' then bytes else []) ++ call.input.bytes) executable))
    | none => .ok (tree.put place (.file call.input.bytes false))
  { reaction.write call.input with readsInput := true }

def namesIn (tree : FileTree) (place : List Text) : List Text :=
  (tree.entries.filterMap fun entry =>
    if entry.1.dropLast == place && !entry.1.isEmpty then entry.1.getLast? else none).mergeSort
      fun left right => left.isBefore right

def ls (call : Call) : Reaction :=
  let (letters, names) := optionLetters call.arguments
  let visible (name : Text) : Bool :=
    letters.contains 'a' || letters.contains 'A' || name.toList.head? != some (.char '.')
  (if names.isEmpty then [['.']] else names).foldl
    (fun reaction name =>
      match call.place name with
      | .error error =>
          reaction.complain call.name
            ("cannot access '".toList ++ name ++ "': ".toList ++ systemMessage error) 2
      | .ok place =>
          match call.tree.at? place with
          | none => reaction.complain call.name
              ("cannot access '".toList ++ name ++ "': No such file or directory".toList) 2
          | some (.file _ _) => reaction.write (name ++ ['\n'])
          | some .directory =>
              reaction.write (((namesIn call.tree place).filter visible).flatMap fun name =>
                Octets.ofName name ++ ['\n']))
    (call.endsWith 0)

def baseName (call : Call) : Reaction :=
  match call.arguments with
  | path :: rest =>
      let name := Octets.ofName ((Path.ofText path.name).parts.getLastD "/")
      let ending := rest.headD []
      let shown :=
        if ending.isSuffixOf name && ending != name then name.take (name.length - ending.length) else name
      (call.endsWith 0).write (shown ++ ['\n'])
  | [] => (call.endsWith 0).complain call.name "missing operand".toList 1

def directoryName (call : Call) : Reaction :=
  match call.arguments with
  | path :: _ => (call.endsWith 0).write (Octets.ofName (Path.ofText path.name).parent.text ++ ['\n'])
  | [] => (call.endsWith 0).complain call.name "missing operand".toList 1

def programs : List (String × (Call → Reaction)) :=
  [("true", fun call => call.endsWith 0), ("false", fun call => call.endsWith 1), ("echo", echoPlain),
   ("printf", printf), ("cat", cat), ("test", condition), ("[", bracketCondition), ("grep", grep),
   ("rm", rm), ("rmdir", rmdir), ("mkdir", mkdir), ("touch", touch), ("chmod", chmod),
   ("cp", fun call => transfer call true), ("mv", fun call => transfer call false), ("wc", wc),
   ("head", head), ("tail", tail), ("sort", sort), ("tr", tr), ("seq", seq), ("tee", tee), ("ls", ls),
   ("sleep", fun call => call.endsWith 0), ("basename", baseName), ("dirname", directoryName)]

def program? (name : String) : Option (Call → Reaction) := programs.lookup name

end ConstantSweep.Shell

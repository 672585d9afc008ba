import ConstantSweep.Shell.Expansion

set_option autoImplicit false

namespace ConstantSweep.Shell

namespace Evaluation

open Work

inductive ProcessEnd where
  | status (status : Nat)
  | signal (number : Nat)
  deriving DecidableEq, Repr

def runScript (run : Command → Work Unit) (script : Octets) : Work Unit :=
  (readScript script).forM fun item =>
    match item with
    | .ok command => run command
    | .error complaint => do
        changeShell fun shell => { shell with line := complaint.line }
        say complaint.message.toList
        throw (.exit 2)

def runTrap (run : Command → Work Unit) (number : Nat) : Work Unit := do
  match (← shell).traps.lookup number with
  | none => return
  | some action =>
      changeShell fun shell => { shell with traps := shell.traps.filter fun entry => entry.1 != 0 }
      let status := (← shell).status
      runScript run action
      setStatus status

def asProcess (run : Command → Work Unit) (child : State) (body : Work Unit) : Work ProcessEnd := do
  let before ← shell
  changeShell fun _ => child
  let guarded (work : Work Unit) : Work ProcessEnd :=
    tryCatch (do work; return .status (← shell).status) fun stop =>
      match stop with
      | .exit status => do setStatus status; return .status status
      | .returned status => do setStatus status; return .status status
      | .signal number => return .signal number
      | _ => return .status (← shell).status
  let first ← guarded body
  let ended ← match first with
    | .status status => do
        match ← guarded (runTrap run 0) with
        | .status 0 => pure (ProcessEnd.status status)
        | .status _ => pure (ProcessEnd.status (← shell).status)
        | ended => pure ended
    | ended => pure ended
  changeShell fun _ => before
  return ended

-- Runs commands apart from the shell: what they change in it is forgotten. A signal ends them both.
def apart (work : Work Unit) : Work Unit :=
  restoring (fun before after => { before with status := after.status })
    (tryCatch work fun stop =>
      match stop with
      | .exit status => setStatus status
      | .returned status => setStatus status
      | .signal number => throw (.signal number)
      | _ => return)

def signalText (number : Nat) : Octets :=
  match number with
  | 1 => "Hangup".toList
  | 2 => []
  | 3 => "Quit".toList
  | 6 => "Aborted".toList
  | 9 => "Killed".toList
  | 10 => "User defined signal 1".toList
  | 11 => "Segmentation fault".toList
  | 12 => "User defined signal 2".toList
  | 13 => []
  | 14 => "Alarm clock".toList
  | 15 => "Terminated".toList
  | _ => []

def report (ended : ProcessEnd) : Work Unit := do
  match ended with
  | .status status => setStatus status
  | .signal number =>
      let text := signalText number
      if !text.isEmpty then write 2 (text ++ ['\n'])
      setStatus (128 + number)

def childShell (name : Octets) (parameters : List Octets) : Work State := do
  let shell ← shell
  return { shell with
    name := name
    parameters := parameters
    bindings := shell.bindings.filter fun entry => shell.exported.contains entry.1
    functions := []
    status := 0
    number := shell.number + 1
    line := 1
    traps := shell.traps.filter fun entry => entry.2.isEmpty
    exitsOnFailure := false
    needsVariables := false
    isTested := false }

structure ShellOptions where
  takesText : Bool
  exitsOnFailure : Bool
  needsVariables : Bool

def shellOptions : List Octets → ShellOptions × List Octets
  | ['-', '-'] :: rest => (⟨false, false, false⟩, rest)
  | ('-' :: c :: letters) :: rest =>
      let letters := c :: letters
      let (options, rest) := shellOptions rest
      (⟨options.takesText || letters.contains 'c', options.exitsOnFailure || letters.contains 'e',
        options.needsVariables || letters.contains 'u'⟩, rest)
  | rest => (⟨false, false, false⟩, rest)

def startShell (run : Command → Work Unit) (name : Octets) (arguments : List Octets) : Work ProcessEnd := do
  let (options, rest) := shellOptions arguments
  let start (name : Octets) (parameters : List Octets) (script : Octets) : Work ProcessEnd := do
    let child ← childShell name parameters
    asProcess run
      { child with exitsOnFailure := options.exitsOnFailure, needsVariables := options.needsVariables }
      (runScript run script)
  if options.takesText then
    match rest with
    | [] =>
        write 2 (name ++ ": 0: -c requires an argument\n".toList)
        return .status 2
    | [script] => start name [] script
    | script :: name :: parameters => start name parameters script
  else
    match rest with
    | [] =>
        let script ← readable 0
        setReadable 0 []
        start name [] script
    | file :: parameters =>
        let world ← get
        match ← place file with
        | .ok place =>
            match world.tree.at? place with
            | some (.file bytes _) => start file parameters (Octets.ofBytes bytes)
            | _ =>
                write 2 (name ++ ": 0: cannot open ".toList ++ file ++ ": No such file\n".toList)
                return .status 2
        | .error _ =>
            write 2 (name ++ ": 0: cannot open ".toList ++ file ++ ": No such file\n".toList)
            return .status 2

def callProgram (program : Call → Reaction) (name : Octets) (arguments : List Octets) : Work Unit := do
  let world ← get
  let reaction := program ⟨name, arguments, ← readable 0, world.tree, world.shell.here⟩
  if reaction.readsInput then setReadable 0 []
  modify fun world => { world with tree := reaction.tree }
  reaction.written.forM fun entry => write entry.1 entry.2
  setStatus reaction.status

def start (run : Command → Work Unit) (name : Octets) (executable : Executable) (arguments : List Octets) :
    Work ProcessEnd := do
  match executable with
  | .shell own => startShell run name (own ++ arguments)
  | .program program own =>
      callProgram ((program? program).getD fun call => call.endsWith 127) program.toList
        (own ++ arguments)
      return .status (← shell).status

def startFailure (error : SystemError) : Octets :=
  if error == .notFound || error == .notDirectory then "not found".toList else error.text.toList

def failureStatus (error : SystemError) : Nat := if error == .permission then 126 else 127

def runNamed (run : Command → Work Unit) (name : Octets) (arguments : List Octets) : Work Unit := do
  let world ← get
  match Executable.find world.tree world.shell.here (← searchPath) name with
  | .ok executable => report (← start run name executable arguments)
  | .error .badExecutable => report (← startShell run name (name :: arguments))
  | .error error =>
      say (name ++ ": ".toList ++ startFailure error)
      setStatus (failureStatus error)

def signalNumber? (name : Octets) : Option Nat :=
  match readDecimal name with
  | some number => if 0 ≤ number && number ≤ 64 then some number.toNat else none
  | none =>
      let upper := (String.ofList name).toUpper
      if upper == "EXIT" then some 0
      else
        (Signal.names.find? fun entry => entry.2 == upper || entry.2 == "SIG" ++ upper).map fun entry =>
          entry.1.toNat

def isHarmless (number : Nat) : Bool := [0, 17, 18, 23, 28].contains number

def receive (run : Command → Work Unit) (number : Nat) : Work Unit := do
  match (← shell).traps.lookup number with
  | some action => if action.isEmpty then return else runScript run action
  | none => if isHarmless number then return else throw (.signal number)

def kill (run : Command → Work Unit) (arguments : List Octets) : Work Unit := do
  let (number?, targets) := match arguments with
    | ['-', 's'] :: name :: rest => (signalNumber? name, rest)
    | ('-' :: c :: name) :: rest => (signalNumber? (c :: name), rest)
    | rest => (some 15, rest)
  match number? with
  | none =>
      say ("kill: Illegal signal name".toList)
      setStatus 2
  | some number =>
      setStatus 0
      targets.forM fun target => do
        if readDecimal target == some ((← shell).number : Int) then receive run number
        else
          say "kill: No such process".toList
          setStatus 1

def numberArgument (command : String) (arguments : List Octets) (other : Nat) : Work Nat := do
  match arguments with
  | [] => return other
  | argument :: _ =>
      if !argument.isEmpty && argument.all Char.isDigit then return ((readDecimal argument).getD 0).toNat
      else
        say (command.toList ++ ": Illegal number: ".toList ++ argument)
        throw (.exit 2)

def splitAssignment (argument : Octets) : String × Option Octets :=
  let name := String.ofList (argument.takeWhile (· != '='))
  match argument.dropWhile (· != '=') with
  | _ :: value => (name, some value)
  | [] => (name, none)

def exportAll (arguments : List Octets) : Work Unit := do
  arguments.forM fun argument => do
    let (name, value) := splitAssignment argument
    match value with
    | some value => setVariable name value
    | none => pure ()
    exportVariable name
  setStatus 0

def setOptions : List Octets → Work Unit
  | [] => return
  | ['-', '-'] :: rest => changeShell fun shell => { shell with parameters := rest }
  | (sign :: letters) :: rest => do
      if sign == '-' || sign == '+' then
        let value := sign == '-'
        changeShell fun shell => { shell with
          exitsOnFailure := if letters.contains 'e' then value else shell.exitsOnFailure
          needsVariables := if letters.contains 'u' then value else shell.needsVariables }
        setOptions rest
      else changeShell fun shell => { shell with parameters := (sign :: letters) :: rest }
  | rest => changeShell fun shell => { shell with parameters := rest }

def assignFields : List String → Octets → Work Unit
  | [], _ => return
  | [name], line => setVariable name (Text.trim (fun c => c == ' ' || c == '\t') line)
  | name :: names, line => do
      let line := line.dropWhile fun c => c == ' ' || c == '\t'
      setVariable name (line.takeWhile fun c => c != ' ' && c != '\t')
      assignFields names (line.dropWhile fun c => c != ' ' && c != '\t')

def readLine (arguments : List Octets) : Work Unit := do
  let names := arguments.filter fun argument => argument != ['-', 'r']
  let input ← readable 0
  let line := input.takeWhile (· != '\n')
  let ended := input.dropWhile (· != '\n')
  setReadable 0 (ended.drop 1)
  assignFields (names.map String.ofList) line
  setStatus (if ended.isEmpty then 1 else 0)

def changeDirectory (arguments : List Octets) : Work Unit := do
  match arguments with
  | [] => setStatus 0
  | name :: _ =>
      let tree := (← get).tree
      let found ← place name
      match found with
      | .ok there =>
          if tree.at? there == some .directory then
            changeShell fun shell => { shell with here := there }
            setStatus 0
          else
            say ("cd: can't cd to ".toList ++ name)
            setStatus 2
      | .error _ =>
          say ("cd: can't cd to ".toList ++ name)
          setStatus 2

def setTraps (arguments : List Octets) : Work Unit := do
  match arguments with
  | action :: names =>
      names.forM fun name =>
        match signalNumber? name with
        | none => do
            say ("trap: ".toList ++ name ++ ": bad trap".toList)
            setStatus 1
        | some number =>
            changeShell fun shell =>
              let others := shell.traps.filter fun entry => entry.1 != number
              { shell with traps := if action == ['-'] then others else (number, action) :: others }
  | [] => return

def builtin? (run : Command → Work Unit) (name : String) : Option (List Octets → Work Unit) :=
  let byProgram (program : Call → Reaction) : Option (List Octets → Work Unit) :=
    some fun arguments => do
      let shell ← shell
      callProgram program
        (shell.name ++ ": ".toList ++ Octets.ofNat shell.line ++ ": ".toList ++ name.toList) arguments
  match name with
  | ":" => some fun _ => setStatus 0
  | "true" => some fun _ => setStatus 0
  | "false" => some fun _ => setStatus 1
  | "echo" => byProgram echoEscaped
  | "printf" => byProgram printf
  | "test" => byProgram condition
  | "[" => byProgram bracketCondition
  | "exit" => some fun arguments => do
      throw (.exit ((← numberArgument "exit" arguments (← shell).status) % 256))
  | "return" => some fun arguments => do
      throw (.returned ((← numberArgument "return" arguments (← shell).status) % 256))
  | "break" => some fun arguments => do throw (.leaveLoop (← numberArgument "break" arguments 1))
  | "continue" => some fun arguments => do throw (.nextRound (← numberArgument "continue" arguments 1))
  | "cd" => some changeDirectory
  | "pwd" => some fun _ => do
      write 1 ('/' :: (['/'].intercalate ((← shell).here.map Octets.ofName)) ++ ['\n'])
      setStatus 0
  | "export" => some exportAll
  | "readonly" => some exportAll
  | "local" => some fun arguments => arguments.forM fun argument =>
      match splitAssignment argument with
      | (name, some value) => setVariable name value
      | _ => return
  | "unset" => some fun arguments => do
      arguments.forM fun argument => unsetVariable (String.ofList argument)
      setStatus 0
  | "set" => some fun arguments => do
      setOptions arguments
      setStatus 0
  | "shift" => some fun arguments => do
      let count ← numberArgument "shift" arguments 1
      if (← shell).parameters.length < count then
        say "shift: can't shift that many".toList
        throw (.exit 2)
      changeShell fun shell => { shell with parameters := shell.parameters.drop count }
      setStatus 0
  | "read" => some readLine
  | "kill" => some (kill run)
  | "trap" => some fun arguments => do
      setStatus 0
      setTraps arguments
  | "eval" => some fun arguments => do
      setStatus 0
      runScript run (joined arguments)
  | "wait" => some fun _ => setStatus 0
  | "umask" => some fun _ => setStatus 0
  | "command" => some fun arguments =>
      match arguments with
      | name :: rest => runNamed run name rest
      | [] => setStatus 0
  | _ => none

def openChannel (number : Nat) (name : Octets) (channel : List Text → Option Entry → Work (Option Channel))
    (message : String) : Work Bool := do
  if name == "/dev/null".toList then
    setChannel number .null
    return true
  let tree := (← get).tree
  let found ← place name
  match found with
  | .ok there =>
      match ← channel there (tree.at? there) with
      | some channel =>
          setChannel number channel
          return true
      | none => return false
  | .error _ =>
      say (message.toList ++ name ++ (if message == "cannot open " then ": No such file".toList
        else ": Directory nonexistent".toList))
      return false

def redirect (run : Command → Work Unit) (fuel : Nat) (redirection : Redirection) : Work Bool := do
  match redirection with
  | .input number word =>
      let name ← Expansion.text run fuel word
      openChannel number name
        (fun _ entry => do
          match entry with
          | some (.file bytes _) => return some (.text (← newText (Octets.ofBytes bytes)))
          | some .directory => return some (.text (← newText []))
          | none =>
              say ("cannot open ".toList ++ name ++ ": No such file".toList)
              return none)
        "cannot open "
  | .output number appends word =>
      let name ← Expansion.text run fuel word
      openChannel number name
        (fun place entry => do
          match entry with
          | some .directory =>
              say ("cannot create ".toList ++ name ++ ": Is a directory".toList)
              return none
          | some (.file bytes executable) =>
              modify fun world =>
                { world with tree := world.tree.put place (.file (if appends then bytes else []) executable) }
              return some (.file place)
          | none =>
              modify fun world => { world with tree := world.tree.put place (.file [] false) }
              return some (.file place))
        "cannot create "
  | .document number word =>
      setChannel number (.text (← newText (← Expansion.text run fuel word)))
      return true
  | .copy number word =>
      let name ← Expansion.text run fuel word
      if name == ['-'] then
        setChannel number .closed
        return true
      match readDecimal name with
      | some other =>
          setChannel number (← channel other.toNat)
          return true
      | none =>
          say "Bad fd number".toList
          return false

def redirectAll (run : Command → Work Unit) (fuel : Nat) : List Redirection → Work Bool
  | [] => return true
  | redirection :: rest => do
      if ← redirect run fuel redirection then redirectAll run fuel rest else return false

def keepChannels (before after : State) : State := { after with channels := before.channels }

def redirected (run : Command → Work Unit) (fuel : Nat) (redirections : List Redirection) (work : Work Unit) :
    Work Unit :=
  restoring keepChannels do
    if ← redirectAll run fuel redirections then work else setStatus 2

def assign (run : Command → Work Unit) (fuel : Nat) (assignments : List (String × Word)) : Work Unit :=
  assignments.forM fun (name, word) => do setVariable name (← Expansion.text run fuel word)

def isSpecial (name : String) : Bool :=
  [":", "exit", "return", "break", "continue", "export", "readonly", "unset", "set", "shift", "trap", "eval",
   "exec"].contains name

def checkFailure : Work Unit := do
  let shell ← shell
  if shell.exitsOnFailure && !shell.isTested && shell.status != 0 then throw (.exit shell.status)

def tested (run : Command → Work Unit) (command : Command) : Work Bool := do
  restoring (fun before after => { after with isTested := before.isTested })
    (do
      changeShell fun shell => { shell with isTested := true }
      run command)
  return (← shell).status == 0

def callFunction (run : Command → Work Unit) (body : Command) (arguments : List Octets) : Work Unit :=
  restoring (fun before after => { after with parameters := before.parameters })
    (do
      changeShell fun shell => { shell with parameters := arguments }
      tryCatch (run body) fun stop =>
        match stop with
        | .returned status => setStatus status
        | stop => throw stop)

def dispatch (run : Command → Work Unit) (name : Octets) (arguments : List Octets) : Work Unit := do
  match (← shell).functions.lookup (String.ofList name) with
  | some body => callFunction run body arguments
  | none =>
      match builtin? run (String.ofList name) with
      | some builtin => builtin arguments
      | none => runNamed run name arguments

def execute (run : Command → Work Unit) (arguments : List Octets) : Work Unit := do
  match arguments with
  | [] => setStatus 0
  | name :: rest =>
      let world ← get
      match Executable.find world.tree world.shell.here (← searchPath) name with
      | .ok executable =>
          match ← start run name executable rest with
          | .status status => throw (.exit status)
          | .signal number => throw (.signal number)
      | .error error =>
          say ("exec: ".toList ++ name ++ ": ".toList ++ startFailure error)
          throw (.exit (failureStatus error))

def simple (run : Command → Work Unit) (fuel line : Nat) (assignments : List (String × Word))
    (words : List Word) (redirections : List Redirection) : Work Unit := do
  changeShell fun shell => { shell with line := line, substituted := 0 }
  let fields ← Expansion.fields run fuel words
  match fields with
  | [] =>
      redirected run fuel redirections do
        assign run fuel assignments
        setStatus (← shell).substituted
  | name :: arguments =>
      let command := String.ofList name
      if command == "exec" then
        if ← redirectAll run fuel redirections then execute run arguments else throw (.exit 2)
      else if isSpecial command then
        redirected run fuel redirections do
          assign run fuel assignments
          dispatch run name arguments
      else
        redirected run fuel redirections do
          if assignments.isEmpty then dispatch run name arguments
          else
            restoring
              (fun before after =>
                { after with bindings := before.bindings, exported := before.exported })
              (do
                assign run fuel assignments
                assignments.forM fun entry => exportVariable entry.1
                dispatch run name arguments)
  checkFailure

def pipeline (run : Command → Work Unit) : List Command → Work Unit
  | [] => return
  | [command] => apart (run command)
  | command :: rest => do
      let text ← newText []
      restoring keepChannels do
        setChannel 1 (.text text)
        apart (run command)
      restoring keepChannels do
        setChannel 0 (.text text)
        pipeline run rest

-- What a stop inside a loop means for the loop: it ends, goes on, or the stop goes further out.
inductive Round where
  | leave
  | next
  | further (stop : Stop)

def roundOf (stop : Stop) : Round :=
  match stop with
  | .leaveLoop levels => if levels ≤ 1 then .leave else .further (.leaveLoop (levels - 1))
  | .nextRound levels => if levels ≤ 1 then .next else .further (.nextRound (levels - 1))
  | stop => .further stop

def oneRound (body : Work Unit) : Work Bool :=
  tryCatch
    (do
      body
      return true)
    fun stop =>
      match roundOf stop with
      | .leave => return false
      | .next => return true
      | .further stop => throw stop

def rounds (run : Command → Work Unit) (untilSuccess : Bool) (test body : Command) (status : Nat) :
    Nat → Work Unit
  | 0 => throw (.exit 2)
  | fuel + 1 => do
      if (← tested run test) != untilSuccess then
        setStatus 0
        if ← oneRound (run body) then rounds run untilSuccess test body (← shell).status fuel
      else setStatus status

def eachValue (run : Command → Work Unit) (name : String) (body : Command) : List Octets → Work Unit
  | [] => return
  | value :: rest => do
      setVariable name value
      if ← oneRound (run body) then eachValue run name body rest

def chooseArm (run : Command → Work Unit) (fuel : Nat) (value : Octets) :
    List (List Word × Command) → Work Unit
  | [] => return
  | (patterns, body) :: rest => do
      let patterns ← patterns.mapM fun pattern => do
        return Expansion.patternOfPieces (← Expansion.word run fuel pattern)
      if patterns.any fun pattern => pattern.accepts value then run body
      else chooseArm run fuel value rest

def step (run : Command → Work Unit) (fuel : Nat) (command : Command) : Work Unit := do
  match command with
  | .simple line assignments words redirections => simple run fuel line assignments words redirections
  | .redirected command redirections => redirected run fuel redirections (run command)
  | .sequence commands => commands.forM run
  | .pipeline commands =>
      pipeline run commands
      checkFailure
  | .negated command => setStatus (if ← tested run command then 1 else 0)
  | .both first second => if ← tested run first then run second
  | .either first second => if !(← tested run first) then run second
  | .subshell command =>
      apart (run command)
      checkFailure
  | .branch test yes no =>
      if ← tested run test then
        setStatus 0
        run yes
      else
        setStatus 0
        run no
  | .loop untilSuccess test body => rounds run untilSuccess test body 0 fuel
  | .forEach name words body =>
      let values ← match words with
        | some words => Expansion.fields run fuel words
        | none => pure (← shell).parameters
      setStatus 0
      eachValue run name body values
  | .choice word arms =>
      let value ← Expansion.text run fuel word
      setStatus 0
      chooseArm run fuel value arms
  | .define name body =>
      changeShell fun shell => { shell with functions := (name, body) :: shell.functions }
      setStatus 0

end Evaluation

-- Runs a command. `fuel` bounds how deep commands are nested and how often loops go round; a command that
-- uses it up ends there.
def run : Nat → Command → Work Unit
  | 0, _ => throw (.exit 2)
  | fuel + 1, command => Evaluation.step (run fuel) fuel command

end ConstantSweep.Shell

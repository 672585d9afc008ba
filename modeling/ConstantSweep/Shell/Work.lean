import ConstantSweep.Shell.Executable
import ConstantSweep.Shell.Reader
import ConstantSweep.Signal.Name

set_option autoImplicit false

namespace ConstantSweep.Shell

inductive Channel where
  | closed
  | null
  | text (number : Nat)
  | file (place : List Text)
  deriving DecidableEq, Repr

structure State where
  name : Octets
  parameters : List Octets
  bindings : List (Octets × Octets)
  exported : List Octets
  functions : List (String × Command)
  channels : List (Nat × Channel)
  here : List Text
  status : Nat
  substituted : Nat
  number : Nat
  line : Nat
  traps : List (Nat × Octets)
  exitsOnFailure : Bool
  needsVariables : Bool
  isTested : Bool

structure World where
  shell : State
  tree : FileTree
  texts : List (Nat × List Octets)
  nextText : Nat

inductive Stop where
  | exit (status : Nat)
  | signal (number : Nat)
  | leaveLoop (levels : Nat)
  | nextRound (levels : Nat)
  | returned (status : Nat)
  deriving DecidableEq, Repr

abbrev Work := ExceptT Stop (StateM World)

namespace Work

def shell : Work State := return (← get).shell

def changeShell (change : State → State) : Work Unit :=
  modify fun world => { world with shell := change world.shell }

def setStatus (status : Nat) : Work Unit := changeShell fun shell => { shell with status := status }

def replace {α : Type} (entries : List (Nat × α)) (key : Nat) (value : α) : List (Nat × α) :=
  (key, value) :: entries.filter fun entry => entry.1 != key

def newText (octets : Octets) : Work Nat := do
  let world ← get
  set { world with
    texts := (world.nextText, [octets]) :: world.texts
    nextText := world.nextText + 1 }
  return world.nextText

def piecesOf (number : Nat) : Work (List Octets) := return ((← get).texts.lookup number).getD []

def setPieces (number : Nat) (pieces : List Octets) : Work Unit :=
  modify fun world => { world with texts := replace world.texts number pieces }

def textOf (number : Nat) : Work Octets := return (← piecesOf number).reverse.flatten

def setText (number : Nat) (octets : Octets) : Work Unit := setPieces number [octets]

def channel (number : Nat) : Work Channel := return ((← shell).channels.lookup number).getD .closed

def setChannel (number : Nat) (channel : Channel) : Work Unit :=
  changeShell fun shell => { shell with channels := replace shell.channels number channel }

def write (number : Nat) (octets : Octets) : Work Unit := do
  match ← channel number with
  | .closed => return
  | .null => return
  | .text text => setPieces text (octets :: (← piecesOf text))
  | .file place =>
      modify fun world =>
        match world.tree.at? place with
        | some (.file bytes executable) =>
            { world with tree := world.tree.put place (.file (bytes ++ octets.bytes) executable) }
        | _ => world

def readable (number : Nat) : Work Octets := do
  match ← channel number with
  | .text text => textOf text
  | _ => return []

def setReadable (number : Nat) (octets : Octets) : Work Unit := do
  match ← channel number with
  | .text text => setText text octets
  | _ => return

def say (message : Octets) : Work Unit := do
  let shell ← shell
  write 2 (shell.name ++ ": ".toList ++ Octets.ofNat shell.line ++ ": ".toList ++ message ++ ['\n'])

def valueOf (name : String) : Work (Option Octets) := return (← shell).bindings.lookup name.toList

def setVariable (name : String) (value : Octets) : Work Unit :=
  changeShell fun shell =>
    { shell with bindings := (name.toList, value) :: shell.bindings.filter fun entry => entry.1 != name.toList }

def unsetVariable (name : String) : Work Unit :=
  changeShell fun shell =>
    { shell with
      bindings := shell.bindings.filter fun entry => entry.1 != name.toList
      exported := shell.exported.filter fun other => other != name.toList
      functions := shell.functions.filter fun entry => entry.1 != name }

def exportVariable (name : String) : Work Unit :=
  changeShell fun shell =>
    { shell with
      exported :=
        if shell.exported.contains name.toList then shell.exported else name.toList :: shell.exported }

def restoring {α : Type} (put : State → State → State) (work : Work α) : Work α := do
  let before ← shell
  tryCatch
    (do
      let result ← work
      changeShell (put before)
      return result)
    fun stop => do
      changeShell (put before)
      throw stop

def place (name : Octets) : Work (Except SystemError (List Text)) := do
  let path := Path.ofText name.name
  if name.isEmpty || path.isAbsolute then return .error .notFound
  else return (← get).tree.walk (← shell).here path.parts

def searchPath : Work Octets := return (← valueOf "PATH").getD Executable.standardPath

end Work

end ConstantSweep.Shell

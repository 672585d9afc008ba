import ConstantSweep.Fault

set_option autoImplicit false

namespace ConstantSweep.Signal

-- Who handles a signal: nobody, somebody who was there before, known by a label, or the forwarder.
inductive Handler where
  | ignored
  | initial (label : Nat)
  | forwarder
  deriving DecidableEq, Repr

structure Child where
  number : Nat
  isRunning : Bool
  deriving DecidableEq, Repr

-- A forwarder, and of the process that it lives in the handlers and the thread that runs now. Children are numbered as
-- they are attached; `outer` lists what the initial handlers got, by label, and `sent` what was passed on.
structure Forwarder where
  covered : List Int
  handlers : Int → Handler
  onMainThread : Bool
  saved : List (Int × Handler)
  depth : Nat
  received : Option Int
  child : Option Child
  childCount : Nat
  outer : List (Nat × Int)
  sent : List (Nat × Int)

namespace Forwarder

def idle (covered : List Int) (handlers : Int → Handler) : Forwarder :=
  { covered := covered, handlers := handlers, onMainThread := true, saved := [], depth := 0, received := none,
    child := none, childCount := 0, outer := [], sent := [] }

def on (forwarder : Forwarder) (onMainThread : Bool) : Forwarder := { forwarder with onMainThread := onMainThread }

def setHandler (handlers : Int → Handler) (signal : Int) (handler : Handler) : Int → Handler :=
  fun other => if other = signal then handler else handlers other

def save (saved : List (Int × Handler)) (signal : Int) (handler : Handler) : List (Int × Handler) :=
  match saved with
  | [] => [(signal, handler)]
  | (other, old) :: rest =>
      if other = signal then (signal, handler) :: rest else (other, old) :: save rest signal handler

def takeOver (forwarder : Forwarder) (signal : Int) : Forwarder :=
  { forwarder with
    saved := save forwarder.saved signal (forwarder.handlers signal)
    handlers := setHandler forwarder.handlers signal .forwarder }

def giveBack (forwarder : Forwarder) (entry : Int × Handler) : Forwarder :=
  { forwarder with handlers := setHandler forwarder.handlers entry.1 entry.2 }

def openBlock (forwarder : Forwarder) : Forwarder :=
  let prepared :=
    if forwarder.depth = 0 then
      forwarder.covered.foldl takeOver { forwarder with received := none, saved := [] }
    else forwarder
  { prepared with depth := prepared.depth + 1 }

def closeBlock (forwarder : Forwarder) : Forwarder :=
  let outside := { forwarder with depth := forwarder.depth - 1 }
  if outside.depth = 0 then { outside.saved.foldl giveBack outside with saved := [] } else outside

-- Only the main thread may change who handles signals: on another one a block neither takes anything over nor forgets
-- what was received.
def enter (forwarder : Forwarder) : Forwarder := if forwarder.onMainThread then forwarder.openBlock else forwarder

def leave (forwarder : Forwarder) : Forwarder := if forwarder.onMainThread then forwarder.closeBlock else forwarder

def handle (forwarder : Forwarder) (signal : Int) : Forwarder :=
  let noted := { forwarder with received := some signal }
  match forwarder.child with
  | some child =>
      if child.isRunning then { noted with sent := noted.sent ++ [(child.number, signal)] } else noted
  | none => noted

def deliver (forwarder : Forwarder) (signal : Int) : Forwarder :=
  match forwarder.handlers signal with
  | .ignored => forwarder
  | .initial label => { forwarder with outer := forwarder.outer ++ [(label, signal)] }
  | .forwarder => forwarder.handle signal

def deliverAll (forwarder : Forwarder) (signals : List Int) : Forwarder := signals.foldl deliver forwarder

def attach (forwarder : Forwarder) (isRunning : Bool) : Forwarder :=
  { forwarder with
    child := some ⟨forwarder.childCount, isRunning⟩
    childCount := forwarder.childCount + 1 }

def detach (forwarder : Forwarder) : Forwarder := { forwarder with child := none }

def check (forwarder : Forwarder) : Option Int × Forwarder :=
  (forwarder.received, { forwarder with received := none })

end Forwarder

def lastSignal : Int := 64

-- The signals that nobody can take over: two that always end or stop a process, and two that threads need.
def reserved : List Int := [9, 19, 32, 33]

def exceedsWord (number : Int) : Bool := number < -(Nat.pow 2 31 : Nat) || (Nat.pow 2 31 : Nat) ≤ number

def takingFault? (signal : Int) : Option Fault :=
  if exceedsWord signal then some .wordOverflow
  else if signal < 1 || lastSignal < signal then some .signalOutOfRange
  else if reserved.contains signal then some .signalRefused
  else none

def raisingFault? (signal : Int) : Option Fault :=
  if exceedsWord signal then some .wordOverflow
  else if signal < 0 || lastSignal < signal then some .signalRefused
  else none

def reaches (signal : Int) : Bool := 0 < signal && signal ≤ lastSignal

-- The outermost block cannot begin if one of the signals cannot be taken over. Those before it are taken over by then,
-- and nobody gives them back.
def Forwarder.refuse (forwarder : Forwarder) : Forwarder :=
  (forwarder.covered.takeWhile fun signal => (takingFault? signal).isNone).foldl
    (fun now signal => { now with handlers := Forwarder.setHandler now.handlers signal .forwarder })
    { forwarder with received := none }

inductive Operation where
  | enter (onMainThread : Bool)
  | leave
  | raise (signal : Int)
  | attach (isRunning : Bool)
  | detach
  | check
  deriving DecidableEq, Repr

-- A forwarder with its open blocks, the innermost first; each says whether it is the main thread's.
structure Session where
  forwarder : Forwarder
  blocks : List Bool

namespace Session

def fault? (session : Session) : Operation → Option Fault
  | .enter true =>
      if session.forwarder.depth = 0 then session.forwarder.covered.findSome? takingFault? else none
  | .leave => if session.blocks.isEmpty then some .indexOutOfRange else none
  | .raise signal => raisingFault? signal
  | _ => none

-- Performs an operation, or as much of it as happens before it is refused; a check tells a signal.
def perform (session : Session) (operation : Operation) : Option Int × Session :=
  let forwarder := session.forwarder
  match operation with
  | .enter onMainThread =>
      match session.fault? (.enter onMainThread) with
      | some _ => (none, { session with forwarder := (forwarder.on onMainThread).refuse })
      | none => (none, ⟨(forwarder.on onMainThread).enter, onMainThread :: session.blocks⟩)
  | .leave =>
      match session.blocks with
      | [] => (none, session)
      | onMainThread :: blocks => (none, ⟨(forwarder.on onMainThread).leave, blocks⟩)
  | .raise signal =>
      (none, if reaches signal then { session with forwarder := forwarder.deliver signal } else session)
  | .attach isRunning => (none, { session with forwarder := forwarder.attach isRunning })
  | .detach => (none, { session with forwarder := forwarder.detach })
  | .check => (forwarder.check.1, { session with forwarder := forwarder.check.2 })

def performAll (session : Session) : List Operation → Session
  | [] => session
  | operation :: rest => (session.perform operation).2.performAll rest

end Session

end ConstantSweep.Signal

import ConstantSweep.Signal.Forwarder
import ConstantSweep.Sweep.Patch
import ConstantSweep.Sweep.Result
import ConstantSweep.Sweep.Step

set_option autoImplicit false

namespace ConstantSweep.Sweep

open ConstantSweep.Decimal
open ConstantSweep.Signal

structure PatchCall where
  request : PatchRequest
  value : Option Int
  deriving DecidableEq, Repr

structure Measured where
  exitCode : Int
  elapsed : Binary64
  maxMemory : Option Int
  stdout : Text
  stderr : Text
  cpu : Option Binary64
  deriving Repr

def kilobytes (isInBytes : Bool) (amount : Int) : Int := if isInBytes then Int.fdiv amount 1024 else amount

inductive SpawnStop where
  | failure (failure : SpawnFailure)
  | interrupt (signal : Int)
  | fault (fault : Fault)
  deriving Repr

-- An answer with what happened meanwhile: the state afterwards, the signals that arrived, in order, and
-- the log records that were written.
structure Reply (σ α : Type) where
  state : σ
  answer : α
  signals : List Int
  records : List Log.Record
  deriving Repr

-- Whether a bench itself asks for signals before a process starts and after it has ended; it may open a
-- block of the forwarder for that.
inductive Watch where
  | absent
  | present (opensBlock : Bool)
  deriving DecidableEq, Repr

structure Bench (σ : Type) where
  patch : PatchCall → σ → Reply σ (Except PatchStop Text)
  spawn : Step → σ → Reply σ (Except SpawnStop Measured)
  watch : Watch

def patchDisk (call : PatchCall) (disk : Disk) : Reply Disk (Except PatchStop Text) :=
  match patch disk call.request with
  | .error stop => ⟨disk, .error stop, [], []⟩
  | .ok patched => ⟨patched.disk, .ok patched.previous, [], [patched.record call.request]⟩

-- What disturbs patches: those of some values fail before anything is touched, and after those of others
-- that succeed a signal arrives. The patch without a value is the one that puts the line back.
structure Disturbance where
  failing : List (Option Int)
  signals : List (Option Int × Int)
  deriving Repr

-- A process with all that belongs to it: the state and the forwarder afterwards, whether it was tried to
-- start it, and the records before and after.
structure Supervised (σ : Type) where
  state : σ
  forwarder : Forwarder
  tried : Bool
  before : List Log.Record
  answer : Except SpawnStop Measured
  after : List Log.Record

namespace Bench

variable {σ : Type}

def disturbed (bench : Bench σ) (disturbance : Disturbance) : Bench σ :=
  { bench with
    patch := fun call state =>
      if disturbance.failing.contains call.value then
        ⟨state, .error (.failure ⟨call.request.path, call.request.pattern, 0, .lines⟩), [], []⟩
      else
        let reply := bench.patch call state
        match reply.answer with
        | .error _ => reply
        | .ok _ =>
            let signal := disturbance.signals.lookup call.value
            match signal.bind raisingFault? with
            | some fault => { reply with answer := .error (.fault fault) }
            | none => { reply with signals := reply.signals ++ signal.toList } }

-- The forwarder after the signals that arrived while a process ran, to which they are passed on.
def forward (forwarder : Forwarder) (reply : Reply σ (Except SpawnStop Measured)) : Forwarder :=
  match reply.answer with
  | .ok _ => ((forwarder.attach true).deliverAll reply.signals).detach
  | .error _ => forwarder.deliverAll reply.signals

def spawningRecord (step : Step) : Log.Record :=
  { level := .debug
    source := .process
    message := "Spawning step"
    details :=
      [("cmd", .list step.command),
       ("cwd", match step.cwd with
        | none => .absent
        | some path => .text path.text)] }

def outputRecord (step : Step) (name : String) (output : Text) : List Log.Record :=
  if output.isEmpty then []
  else
    [{ level := .debug
       source := .process
       message := "Step " ++ name
       details := [("cmd", .list step.command), (name, .text output)] }]

def watched (bench : Bench σ) (opensBlock : Bool) (step : Step) (forwarder : Forwarder) (state : σ) :
    Supervised σ :=
  let opened := if opensBlock then forwarder.enter else forwarder
  let close (forwarder : Forwarder) : Forwarder := if opensBlock then forwarder.leave else forwarder
  let before := [spawningRecord step]
  match opened.check with
  | (some signal, asked) => ⟨state, close asked, false, before, .error (.interrupt signal), []⟩
  | (none, _) =>
      let reply := bench.spawn step state
      let forwarded := forward opened reply
      let before := before ++ reply.records
      match reply.answer with
      | .error stop => ⟨reply.state, close forwarded, true, before, .error stop, []⟩
      | .ok measured =>
          match forwarded.check with
          | (some signal, asked) => ⟨reply.state, close asked, true, before, .error (.interrupt signal), []⟩
          | (none, _) =>
              ⟨reply.state, close forwarded, true, before, .ok measured,
                outputRecord step "stdout" measured.stdout ++ outputRecord step "stderr" measured.stderr⟩

def supervise (bench : Bench σ) (step : Step) (forwarder : Forwarder) (state : σ) : Supervised σ :=
  match bench.watch with
  | .absent =>
      let reply := bench.spawn step state
      ⟨reply.state, forwarder.deliverAll reply.signals, true, reply.records, reply.answer, []⟩
  | .present opensBlock => bench.watched opensBlock step forwarder state

end Bench

end ConstantSweep.Sweep

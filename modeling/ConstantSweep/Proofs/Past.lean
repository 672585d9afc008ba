import ConstantSweep.Proofs.Forwarder

set_option autoImplicit false

namespace ConstantSweep.Signal

-- What a forwarder has counted and told so far. Nothing that it does later looks at it.
structure Past where
  childCount : Nat
  outer : List (Nat × Int)
  sent : List (Nat × Int)

def Past.renumber (past : Past) (passed : Nat × Int) : Nat × Int := (past.childCount + passed.1, passed.2)

namespace Forwarder

def past (forwarder : Forwarder) : Past := ⟨forwarder.childCount, forwarder.outer, forwarder.sent⟩

-- The forwarder as it would be if it had had that past before its own.
def withPast (forwarder : Forwarder) (past : Past) : Forwarder :=
  { forwarder with
    child := forwarder.child.map fun child => { child with number := past.childCount + child.number }
    childCount := past.childCount + forwarder.childCount
    outer := past.outer ++ forwarder.outer
    sent := past.sent ++ forwarder.sent.map past.renumber }

structure AtRest (forwarder : Forwarder) : Prop where
  depth : forwarder.depth = 0
  saved : forwarder.saved = []
  child : forwarder.child = none

-- So many blocks have been opened on the thread that runs now; they count only on the main one.
structure Holds (blocks : Nat) (forwarder : Forwarder) : Prop where
  depth : forwarder.depth = if forwarder.onMainThread then blocks else 0
  saved : forwarder.depth = 0 → forwarder.saved = []
  child : forwarder.child = none

theorem at_rest_iff (forwarder : Forwarder) : forwarder.AtRest ↔ forwarder.Holds 0 := by
  constructor
  · rintro ⟨depth, saved, child⟩
    exact ⟨by rw [depth, ite_self], fun _ => saved, child⟩
  · rintro ⟨depth, saved, child⟩
    rw [ite_self] at depth
    exact ⟨depth, saved depth, child⟩

section Carrying

variable (forwarder : Forwarder) (past : Past)

theorem handle_with_past (signal : Int) : (forwarder.withPast past).handle signal = (forwarder.handle signal).withPast past := by
  cases child : forwarder.child with
  | none => simp only [handle, withPast, child, Option.map_none]
  | some process => cases running : process.isRunning <;> simp [handle, withPast, child, running, Past.renumber]

theorem deliver_with_past (signal : Int) :
    (forwarder.withPast past).deliver signal = (forwarder.deliver signal).withPast past := by
  have handled := handle_with_past forwarder past signal
  have same : (forwarder.withPast past).handlers = forwarder.handlers := rfl
  rw [deliver, deliver, same]
  cases forwarder.handlers signal with
  | ignored => rfl
  | initial label => simp only [withPast, List.append_assoc]
  | forwarder => exact handled

theorem deliver_all_with_past (signals : List Int) :
    (forwarder.withPast past).deliverAll signals = (forwarder.deliverAll signals).withPast past := by
  induction signals generalizing forwarder with
  | nil => rfl
  | cons signal rest ih =>
      change ((forwarder.withPast past).deliver signal).deliverAll rest = _
      rw [deliver_with_past]
      exact ih (forwarder.deliver signal)

theorem take_over_with_past (signals : List Int) :
    signals.foldl takeOver (forwarder.withPast past) = (signals.foldl takeOver forwarder).withPast past := by
  induction signals generalizing forwarder with
  | nil => rfl
  | cons signal rest ih => exact ih (forwarder.takeOver signal)

theorem give_back_with_past (entries : List (Int × Handler)) :
    entries.foldl giveBack (forwarder.withPast past) = (entries.foldl giveBack forwarder).withPast past := by
  induction entries generalizing forwarder with
  | nil => rfl
  | cons entry rest ih => exact ih (forwarder.giveBack entry)

theorem open_with_past : (forwarder.withPast past).openBlock = forwarder.openBlock.withPast past := by
  have taken := take_over_with_past { forwarder with received := none, saved := [] } past forwarder.covered
  have same : (forwarder.withPast past).depth = forwarder.depth := rfl
  by_cases outside : forwarder.depth = 0
  · rw [openBlock, openBlock, same, if_pos outside, if_pos outside]
    exact congrArg (fun now : Forwarder => { now with depth := now.depth + 1 }) taken
  · rw [openBlock, openBlock, same, if_neg outside, if_neg outside]
    rfl

theorem close_with_past : (forwarder.withPast past).closeBlock = forwarder.closeBlock.withPast past := by
  have given := give_back_with_past { forwarder with depth := forwarder.depth - 1 } past forwarder.saved
  have same : (forwarder.withPast past).depth = forwarder.depth := rfl
  by_cases outermost : forwarder.depth - 1 = 0
  · rw [closeBlock, closeBlock, same, if_pos outermost, if_pos outermost]
    exact congrArg (fun now : Forwarder => { now with saved := [] }) given
  · rw [closeBlock, closeBlock, same, if_neg outermost, if_neg outermost]
    rfl

theorem enter_with_past : (forwarder.withPast past).enter = forwarder.enter.withPast past := by
  have same : (forwarder.withPast past).onMainThread = forwarder.onMainThread := rfl
  rw [enter, enter, same]
  split
  · exact open_with_past forwarder past
  · rfl

theorem leave_with_past : (forwarder.withPast past).leave = forwarder.leave.withPast past := by
  have same : (forwarder.withPast past).onMainThread = forwarder.onMainThread := rfl
  rw [leave, leave, same]
  split
  · exact close_with_past forwarder past
  · rfl

theorem opened_with_past (opensBlock : Bool) :
    (forwarder.withPast past).opened opensBlock = (forwarder.opened opensBlock).withPast past := by
  cases opensBlock with
  | false => rfl
  | true => exact enter_with_past forwarder past

theorem closed_with_past (opensBlock : Bool) :
    (forwarder.withPast past).closed opensBlock = (forwarder.closed opensBlock).withPast past := by
  cases opensBlock with
  | false => rfl
  | true => exact leave_with_past forwarder past

end Carrying

section Blocks

variable {blocks : Nat} {forwarder : Forwarder}

theorem deliver_frame (forwarder : Forwarder) (signal : Int) :
    (forwarder.deliver signal).saved = forwarder.saved ∧ (forwarder.deliver signal).child = forwarder.child := by
  unfold deliver
  split
  · exact ⟨rfl, rfl⟩
  · exact ⟨rfl, rfl⟩
  · unfold handle
    split
    · split <;> exact ⟨rfl, rfl⟩
    · exact ⟨rfl, rfl⟩

theorem deliver_all_frame (forwarder : Forwarder) (signals : List Int) :
    (forwarder.deliverAll signals).saved = forwarder.saved ∧
      (forwarder.deliverAll signals).child = forwarder.child := by
  induction signals generalizing forwarder with
  | nil => exact ⟨rfl, rfl⟩
  | cons signal rest ih =>
      obtain ⟨saved, child⟩ := deliver_frame forwarder signal
      obtain ⟨savedOn, childOn⟩ := ih (forwarder.deliver signal)
      exact ⟨savedOn.trans saved, childOn.trans child⟩

theorem holds_alike (after : Forwarder) (alike : Alike after forwarder) (saved : after.saved = forwarder.saved)
    (child : after.child = none) (holds : forwarder.Holds blocks) : after.Holds blocks := by
  refine ⟨?_, ?_, child⟩
  · rw [alike.depth, alike.onMainThread]
    exact holds.depth
  · rw [alike.depth, saved]
    exact holds.saved

theorem deliver_all_holds (signals : List Int) (holds : forwarder.Holds blocks) :
    (forwarder.deliverAll signals).Holds blocks := by
  obtain ⟨saved, child⟩ := deliver_all_frame forwarder signals
  exact holds_alike _ (deliver_all_alike forwarder signals) saved (child.trans holds.child) holds

theorem give_back_frame (forwarder : Forwarder) (entries : List (Int × Handler)) :
    (entries.foldl giveBack forwarder).onMainThread = forwarder.onMainThread ∧
      (entries.foldl giveBack forwarder).child = forwarder.child ∧
      (entries.foldl giveBack forwarder).depth = forwarder.depth := by
  induction entries generalizing forwarder with
  | nil => exact ⟨rfl, rfl, rfl⟩
  | cons entry rest ih => exact ih (forwarder.giveBack entry)

theorem open_holds (onMainThread : forwarder.onMainThread = true) (holds : forwarder.Holds blocks) :
    forwarder.openBlock.Holds (blocks + 1) := by
  obtain ⟨_, main, child, depth, _⟩ := take_over_frame { forwarder with received := none, saved := [] } forwarder.covered
  have counted := holds.depth
  rw [onMainThread, if_pos rfl] at counted
  by_cases outside : forwarder.depth = 0
  · rw [openBlock, if_pos outside]
    refine ⟨?_, fun none => absurd none (Nat.succ_ne_zero _), child.trans holds.child⟩
    dsimp only
    rw [depth, main, onMainThread, if_pos rfl]
    exact congrArg (· + 1) counted
  · rw [openBlock, if_neg outside]
    refine ⟨?_, fun none => absurd none (Nat.succ_ne_zero _), holds.child⟩
    dsimp only
    rw [onMainThread, if_pos rfl, counted]

theorem close_holds (onMainThread : forwarder.onMainThread = true) (holds : forwarder.Holds (blocks + 1)) :
    forwarder.closeBlock.Holds blocks := by
  obtain ⟨main, child, depth⟩ := give_back_frame { forwarder with depth := forwarder.depth - 1 } forwarder.saved
  have counted := holds.depth
  rw [onMainThread, if_pos rfl] at counted
  have less : forwarder.depth - 1 = blocks := congrArg (· - 1) counted
  by_cases outermost : forwarder.depth - 1 = 0
  · rw [closeBlock, if_pos outermost]
    refine ⟨?_, fun _ => rfl, child.trans holds.child⟩
    dsimp only
    rw [depth, main, onMainThread, if_pos rfl]
    exact less
  · rw [closeBlock, if_neg outermost]
    refine ⟨?_, fun none => absurd none outermost, holds.child⟩
    dsimp only
    rw [onMainThread, if_pos rfl]
    exact less

theorem enter_holds (holds : forwarder.Holds blocks) : forwarder.enter.Holds (blocks + 1) := by
  rw [enter]
  split
  · rename_i onMainThread
    exact open_holds onMainThread holds
  · rename_i off
    refine ⟨?_, holds.saved, holds.child⟩
    rw [if_neg off, holds.depth, if_neg off]

theorem leave_holds (holds : forwarder.Holds (blocks + 1)) : forwarder.leave.Holds blocks := by
  rw [leave]
  split
  · rename_i onMainThread
    exact close_holds onMainThread holds
  · rename_i off
    refine ⟨?_, holds.saved, holds.child⟩
    rw [if_neg off, holds.depth, if_neg off]

-- What a run finds of a forwarder at rest: a signal that nobody has asked for only if it is not on the main thread.
def found (forwarder : Forwarder) : Forwarder :=
  { idle forwarder.covered forwarder.handlers with
    onMainThread := forwarder.onMainThread
    received := if forwarder.onMainThread then none else forwarder.received }

theorem found_holds (forwarder : Forwarder) : forwarder.found.Holds 0 := ⟨(ite_self 0).symm, fun _ => rfl, rfl⟩

theorem enter_forgets (rest : forwarder.AtRest) : forwarder.enter = forwarder.found.enter.withPast forwarder.past := by
  rw [← enter_with_past]
  rcases forwarder with ⟨covered, handlers, onMainThread, saved, depth, received, child, childCount, outer, sent⟩
  obtain ⟨rfl, rfl, rfl⟩ := rest
  cases onMainThread with
  | true => simp [enter, openBlock, found, idle, withPast, past]
  | false => simp [enter, found, idle, withPast, past]

end Blocks

end Forwarder

end ConstantSweep.Signal

namespace ConstantSweep.Sweep

open ConstantSweep.Signal

section Supervising

variable {σ : Type} {blocks : Nat} {forwarder : Forwarder}

def Supervised.withPast (supervised : Supervised σ) (past : Past) : Supervised σ :=
  { supervised with forwarder := supervised.forwarder.withPast past }

theorem forward_with_past (forwarder : Forwarder) (past : Past) (reply : Reply σ (Except SpawnStop Measured)) :
    Bench.forward (forwarder.withPast past) reply = (Bench.forward forwarder reply).withPast past := by
  rw [Bench.forward, Bench.forward]
  cases reply.answer with
  | error stop => exact Forwarder.deliver_all_with_past forwarder past reply.signals
  | ok measured =>
      have passedOn := Forwarder.deliver_all_with_past (forwarder.attach true) past reply.signals
      exact congrArg Forwarder.detach passedOn

theorem forward_holds (reply : Reply σ (Except SpawnStop Measured)) (holds : forwarder.Holds blocks) :
    (Bench.forward forwarder reply).Holds blocks := by
  rw [Bench.forward]
  cases reply.answer with
  | error stop => exact Forwarder.deliver_all_holds reply.signals holds
  | ok measured =>
      obtain ⟨saved, _⟩ := Forwarder.deliver_all_frame (forwarder.attach true) reply.signals
      have alike := Forwarder.deliver_all_alike (forwarder.attach true) reply.signals
      have passedOn : Forwarder.Alike ((forwarder.attach true).deliverAll reply.signals).detach forwarder :=
        ⟨alike.handlers, alike.onMainThread, alike.depth⟩
      exact Forwarder.holds_alike _ passedOn saved rfl holds

theorem opened_holds (opensBlock : Bool) (holds : forwarder.Holds blocks) :
    (forwarder.opened opensBlock).Holds (if opensBlock then blocks + 1 else blocks) := by
  cases opensBlock with
  | false => exact holds
  | true => exact Forwarder.enter_holds holds

theorem closed_holds (opensBlock : Bool) (holds : forwarder.Holds (if opensBlock then blocks + 1 else blocks)) :
    (forwarder.closed opensBlock).Holds blocks := by
  cases opensBlock with
  | false => exact holds
  | true => exact Forwarder.leave_holds holds

theorem asked_holds (holds : forwarder.Holds blocks) : forwarder.check.2.Holds blocks :=
  ⟨holds.depth, holds.saved, holds.child⟩

def Supervised.closed (supervised : Supervised σ) (opensBlock : Bool) : Supervised σ :=
  { supervised with forwarder := supervised.forwarder.closed opensBlock }

-- What a bench that watches for signals makes of a process that is over.
def Bench.waited (bench : Bench σ) (step : Step) (before : σ) (forwarded : Forwarder) : Supervised σ :=
  let reply := bench.spawn step before
  let records := spawningRecord step :: reply.records
  match reply.answer with
  | .error stop => ⟨reply.state, forwarded, true, records, .error stop, []⟩
  | .ok measured =>
      match forwarded.check with
      | (some signal, asked) => ⟨reply.state, asked, true, records, .error (.interrupt signal), []⟩
      | (none, _) =>
          ⟨reply.state, forwarded, true, records, .ok measured,
            outputRecord step "stdout" measured.stdout ++ outputRecord step "stderr" measured.stderr⟩

theorem watched_flagged (bench : Bench σ) (opensBlock : Bool) (step : Step) (forwarder : Forwarder) (before : σ)
    (signal : Int) (flagged : (forwarder.opened opensBlock).received = some signal) :
    bench.watched opensBlock step forwarder before =
      Supervised.closed ⟨before, (forwarder.opened opensBlock).check.2, false, [Bench.spawningRecord step],
        .error (.interrupt signal), []⟩ opensBlock := by
  rw [Bench.watched]
  dsimp only
  rw [← Forwarder.opened, Forwarder.check, flagged]
  rfl

theorem watched_quiet (bench : Bench σ) (opensBlock : Bool) (step : Step) (forwarder : Forwarder) (before : σ)
    (quiet : (forwarder.opened opensBlock).received = none) :
    bench.watched opensBlock step forwarder before =
      (bench.waited step before
        (Bench.forward (forwarder.opened opensBlock) (bench.spawn step before))).closed opensBlock := by
  rw [Bench.watched, Bench.waited]
  dsimp only
  rw [← Forwarder.opened, Forwarder.check, quiet]
  dsimp only
  cases (bench.spawn step before).answer with
  | error stop => rfl
  | ok measured =>
      rw [Forwarder.check]
      cases (Bench.forward (forwarder.opened opensBlock) (bench.spawn step before)).received <;> rfl

theorem waited_with_past (bench : Bench σ) (step : Step) (before : σ) (forwarded : Forwarder) (past : Past) :
    bench.waited step before (forwarded.withPast past) = (bench.waited step before forwarded).withPast past := by
  have same : (forwarded.withPast past).received = forwarded.received := rfl
  rw [Bench.waited, Bench.waited]
  cases (bench.spawn step before).answer with
  | error stop => rfl
  | ok measured =>
      rw [Forwarder.check, Forwarder.check, same]
      cases forwarded.received <;> rfl

theorem waited_holds (bench : Bench σ) (step : Step) (before : σ) (holds : forwarder.Holds blocks) :
    (bench.waited step before forwarder).forwarder.Holds blocks := by
  rw [Bench.waited]
  cases (bench.spawn step before).answer with
  | error stop => exact holds
  | ok measured =>
      rw [Forwarder.check]
      cases forwarder.received with
      | none => exact holds
      | some signal => exact asked_holds holds

theorem closed_with_past (supervised : Supervised σ) (past : Past) (opensBlock : Bool) :
    (supervised.withPast past).closed opensBlock = (supervised.closed opensBlock).withPast past :=
  congrArg (fun now => { supervised with forwarder := now })
    (Forwarder.closed_with_past supervised.forwarder past opensBlock)

theorem supervise_with_past (bench : Bench σ) (step : Step) (forwarder : Forwarder) (past : Past) (before : σ) :
    bench.supervise step (forwarder.withPast past) before = (bench.supervise step forwarder before).withPast past := by
  have told := Forwarder.deliver_all_with_past forwarder past (bench.spawn step before).signals
  rw [Bench.supervise, Bench.supervise]
  cases bench.watch with
  | absent =>
      dsimp only
      rw [told]
      rfl
  | present opensBlock =>
      have opened := Forwarder.opened_with_past forwarder past opensBlock
      have same : ((forwarder.withPast past).opened opensBlock).received = (forwarder.opened opensBlock).received := by
        rw [opened]
        rfl
      dsimp only
      cases flag : (forwarder.opened opensBlock).received with
      | some signal =>
          rw [watched_flagged bench opensBlock step forwarder before signal flag,
            watched_flagged bench opensBlock step _ before signal (same.trans flag), ← closed_with_past, opened]
          rfl
      | none =>
          rw [watched_quiet bench opensBlock step forwarder before flag,
            watched_quiet bench opensBlock step _ before (same.trans flag), ← closed_with_past, opened,
            forward_with_past, waited_with_past]

theorem supervise_holds (bench : Bench σ) (step : Step) (before : σ) (holds : forwarder.Holds blocks) :
    (bench.supervise step forwarder before).forwarder.Holds blocks := by
  rw [Bench.supervise]
  cases bench.watch with
  | absent => exact Forwarder.deliver_all_holds _ holds
  | present opensBlock =>
      have opened := opened_holds opensBlock holds
      dsimp only
      cases flag : (forwarder.opened opensBlock).received with
      | some signal =>
          rw [watched_flagged bench opensBlock step forwarder before signal flag]
          exact closed_holds opensBlock (asked_holds opened)
      | none =>
          rw [watched_quiet bench opensBlock step forwarder before flag]
          exact closed_holds opensBlock (waited_holds bench step before (forward_holds _ opened))

end Supervising

end ConstantSweep.Sweep

import ConstantSweep.Sweep.Bench

set_option autoImplicit false

namespace ConstantSweep.Signal

def caught (catches : Int → Bool) (signals : List Int) : Option Int := (signals.filter catches).getLast?

theorem caught_none_iff (catches : Int → Bool) (signals : List Int) :
    caught catches signals = none ↔ ∀ signal ∈ signals, catches signal = false := by
  rw [caught, List.getLast?_eq_none_iff, List.filter_eq_nil_iff]
  simp only [Bool.not_eq_true]

namespace Forwarder

def catches (forwarder : Forwarder) (signal : Int) : Bool := forwarder.handlers signal == .forwarder

theorem catches_congr (first second : Forwarder) (same : first.handlers = second.handlers) :
    first.catches = second.catches := by
  funext signal
  rw [catches, catches, same]

-- Nothing has changed but what is remembered and what was told to others.
structure Alike (first second : Forwarder) : Prop where
  handlers : first.handlers = second.handlers
  onMainThread : first.onMainThread = second.onMainThread
  depth : first.depth = second.depth

theorem Alike.refl (forwarder : Forwarder) : Alike forwarder forwarder := ⟨rfl, rfl, rfl⟩

theorem Alike.trans {first second third : Forwarder} (early : Alike first second) (late : Alike second third) :
    Alike first third :=
  ⟨early.handlers.trans late.handlers, early.onMainThread.trans late.onMainThread, early.depth.trans late.depth⟩

theorem Alike.catches {first second : Forwarder} (alike : Alike first second) : first.catches = second.catches :=
  catches_congr first second alike.handlers

theorem deliver_alike (forwarder : Forwarder) (signal : Int) : Alike (forwarder.deliver signal) forwarder := by
  unfold deliver
  split
  · exact .refl forwarder
  · exact ⟨rfl, rfl, rfl⟩
  · unfold handle
    split
    · split <;> exact ⟨rfl, rfl, rfl⟩
    · exact ⟨rfl, rfl, rfl⟩

theorem deliver_received (forwarder : Forwarder) (signal : Int) :
    (forwarder.deliver signal).received = if forwarder.catches signal then some signal else forwarder.received := by
  rw [catches, deliver]
  cases forwarder.handlers signal with
  | ignored => rfl
  | initial label => rfl
  | forwarder =>
      dsimp only
      unfold handle
      split
      · split <;> rfl
      · rfl

theorem deliver_all_alike (forwarder : Forwarder) (signals : List Int) :
    Alike (forwarder.deliverAll signals) forwarder := by
  induction signals generalizing forwarder with
  | nil => exact .refl forwarder
  | cons signal rest ih => exact (ih (forwarder.deliver signal)).trans (deliver_alike forwarder signal)

theorem deliver_all_received (forwarder : Forwarder) (signals : List Int) :
    (forwarder.deliverAll signals).received = (caught forwarder.catches signals).or forwarder.received := by
  induction signals generalizing forwarder with
  | nil => rfl
  | cons signal rest ih =>
      have later : (forwarder.deliverAll (signal :: rest)).received =
          (caught (forwarder.deliver signal).catches rest).or (forwarder.deliver signal).received :=
        ih (forwarder.deliver signal)
      rw [later, (deliver_alike forwarder signal).catches, deliver_received, caught, caught]
      cases hit : forwarder.catches signal with
      | false => simp [hit]
      | true =>
          rw [if_pos rfl, List.filter_cons_of_pos hit, List.getLast?_cons]
          cases (rest.filter forwarder.catches).getLast? <;> rfl

-- A block that begins now changes nothing but the count: it is not the outermost one, or not the main thread's.
def IsInside (forwarder : Forwarder) : Prop := forwarder.onMainThread = true → forwarder.depth ≠ 0

theorem Alike.inside {first second : Forwarder} (alike : Alike first second) (inside : second.IsInside) :
    first.IsInside := by
  rw [IsInside, alike.onMainThread, alike.depth]
  exact inside

theorem open_inside (forwarder : Forwarder) (inside : forwarder.depth ≠ 0) :
    forwarder.openBlock = { forwarder with depth := forwarder.depth + 1 } := by
  simp [openBlock, inside]

theorem close_nested (forwarder : Forwarder) (nested : forwarder.depth - 1 ≠ 0) :
    forwarder.closeBlock = { forwarder with depth := forwarder.depth - 1 } := by
  simp [closeBlock, nested]

theorem take_over_frame (forwarder : Forwarder) (signals : List Int) :
    (signals.foldl takeOver forwarder).covered = forwarder.covered ∧
      (signals.foldl takeOver forwarder).onMainThread = forwarder.onMainThread ∧
      (signals.foldl takeOver forwarder).child = forwarder.child ∧
      (signals.foldl takeOver forwarder).depth = forwarder.depth ∧
      (signals.foldl takeOver forwarder).received = forwarder.received := by
  induction signals generalizing forwarder with
  | nil => exact ⟨rfl, rfl, rfl, rfl, rfl⟩
  | cons signal rest ih => exact ih (forwarder.takeOver signal)

theorem enter_is_inside (forwarder : Forwarder) : forwarder.enter.IsInside := by
  intro onMainThread counted
  rw [enter] at onMainThread counted
  split at counted
  · exact Nat.succ_ne_zero _ counted
  · rename_i off
    rw [if_neg off] at onMainThread
    exact off onMainThread

def opened (forwarder : Forwarder) (opensBlock : Bool) : Forwarder := if opensBlock then forwarder.enter else forwarder

def closed (forwarder : Forwarder) (opensBlock : Bool) : Forwarder := if opensBlock then forwarder.leave else forwarder

theorem opened_nested (forwarder : Forwarder) (opensBlock : Bool) (inside : forwarder.IsInside) :
    (forwarder.opened opensBlock).handlers = forwarder.handlers ∧
      (forwarder.opened opensBlock).received = forwarder.received := by
  cases opensBlock with
  | false => exact ⟨rfl, rfl⟩
  | true =>
      rw [opened, if_pos rfl, enter]
      split
      · rename_i onMainThread
        rw [open_inside forwarder (inside onMainThread)]
        exact ⟨rfl, rfl⟩
      · exact ⟨rfl, rfl⟩

theorem closed_nested (forwarder after : Forwarder) (opensBlock : Bool) (inside : forwarder.IsInside)
    (alike : Alike after (forwarder.opened opensBlock)) :
    Alike (after.closed opensBlock) forwarder ∧ (after.closed opensBlock).received = after.received := by
  cases opensBlock with
  | false => exact ⟨alike, rfl⟩
  | true =>
      rw [opened, if_pos rfl, enter] at alike
      rw [closed, if_pos rfl, leave]
      cases onMainThread : forwarder.onMainThread with
      | false =>
          rw [onMainThread, if_neg Bool.false_ne_true] at alike
          rw [alike.onMainThread, onMainThread, if_neg Bool.false_ne_true]
          exact ⟨alike, rfl⟩
      | true =>
          rw [onMainThread, if_pos rfl, open_inside forwarder (inside onMainThread)] at alike
          have depth : after.depth = forwarder.depth + 1 := alike.depth
          have nested : after.depth - 1 ≠ 0 := by
            have counted := inside onMainThread
            omega
          rw [alike.onMainThread, if_pos onMainThread, close_nested after nested]
          refine ⟨⟨alike.handlers, alike.onMainThread, ?_⟩, rfl⟩
          dsimp only
          omega

end Forwarder

end ConstantSweep.Signal

namespace ConstantSweep.Sweep

open ConstantSweep.Signal

namespace Bench

variable {σ : Type}

-- What a run is told about a process: a bench that watches for signals gives up after a process that ended
-- while one was caught.
def told (bench : Bench σ) (catches : Int → Bool) (step : Step) (before : σ) : Except SpawnStop Measured :=
  match (bench.spawn step before).answer with
  | .error stop => .error stop
  | .ok measured =>
      match bench.watch, caught catches (bench.spawn step before).signals with
      | .present _, some signal => .error (.interrupt signal)
      | _, _ => .ok measured

def pending (bench : Bench σ) (catches : Int → Bool) (step : Step) (before : σ) : Option Int :=
  match bench.watch, (bench.spawn step before).answer with
  | .present _, .ok _ => none
  | _, _ => caught catches (bench.spawn step before).signals

-- What is written to the log about a process of which the run was told.
def spawnRecords (bench : Bench σ) (step : Step) (before : σ) (told : Except SpawnStop Measured) : List Log.Record :=
  match bench.watch with
  | .absent => (bench.spawn step before).records
  | .present _ =>
      spawningRecord step :: (bench.spawn step before).records ++
        match told with
        | .error _ => []
        | .ok measured =>
            outputRecord step "stdout" measured.stdout ++ outputRecord step "stderr" measured.stderr

structure Supervises (bench : Bench σ) (step : Step) (forwarder : Forwarder) (before : σ)
    (supervised : Supervised σ) : Prop where
  state : supervised.state = (bench.spawn step before).state
  tried : supervised.tried = true
  answer : supervised.answer = bench.told forwarder.catches step before
  received : supervised.forwarder.received = bench.pending forwarder.catches step before
  alike : Forwarder.Alike supervised.forwarder forwarder
  records : supervised.before ++ supervised.after =
    bench.spawnRecords step before (bench.told forwarder.catches step before)

theorem forward_spec (forwarder : Forwarder) (reply : Reply σ (Except SpawnStop Measured))
    (quiet : forwarder.received = none) :
    (forward forwarder reply).received = caught forwarder.catches reply.signals ∧
      Forwarder.Alike (forward forwarder reply) forwarder := by
  unfold forward
  split
  · have alike := Forwarder.deliver_all_alike (forwarder.attach true) reply.signals
    have received := Forwarder.deliver_all_received (forwarder.attach true) reply.signals
    exact ⟨received.trans ((congrArg _ quiet).trans (Option.or_none ..)), alike.handlers, alike.onMainThread, alike.depth⟩
  · have received := Forwarder.deliver_all_received forwarder reply.signals
    exact ⟨received.trans ((congrArg _ quiet).trans (Option.or_none ..)), Forwarder.deliver_all_alike ..⟩

theorem watched_spec (bench : Bench σ) (opensBlock : Bool) (step : Step) (forwarder : Forwarder) (before : σ)
    (watches : bench.watch = .present opensBlock) (inside : forwarder.IsInside) (quiet : forwarder.received = none) :
    bench.Supervises step forwarder before (bench.watched opensBlock step forwarder before) := by
  obtain ⟨handlers, received⟩ := forwarder.opened_nested opensBlock inside
  have unasked : (forwarder.opened opensBlock).received = none := received.trans quiet
  obtain ⟨heard, alike⟩ := forward_spec (forwarder.opened opensBlock) (bench.spawn step before) unasked
  rw [Forwarder.catches_congr _ _ handlers] at heard
  have shut (after : Forwarder) (same : Forwarder.Alike after (forwarder.opened opensBlock)) :=
    Forwarder.closed_nested forwarder after opensBlock inside same
  have asked := shut { forward (forwarder.opened opensBlock) (bench.spawn step before) with received := none }
    ⟨alike.handlers, alike.onMainThread, alike.depth⟩
  have passedOn := shut _ alike
  have start : (forwarder.opened opensBlock).check = (none, { forwarder.opened opensBlock with received := none }) := by
    rw [Forwarder.check, unasked]
  rw [watched]
  dsimp only
  rw [← Forwarder.opened, start]
  dsimp only
  cases answer : (bench.spawn step before).answer with
  | error stop =>
      have answered : bench.told forwarder.catches step before = .error stop := by
        rw [told, answer]
      refine ⟨rfl, rfl, answered.symm, ?_, passedOn.1, ?_⟩
      · rw [pending, watches, answer]
        exact passedOn.2.trans heard
      · rw [answered, spawnRecords, watches]
        rfl
  | ok measured =>
      have ending : (forward (forwarder.opened opensBlock) (bench.spawn step before)).check =
          (caught forwarder.catches (bench.spawn step before).signals,
            { forward (forwarder.opened opensBlock) (bench.spawn step before) with received := none }) := by
        rw [Forwarder.check, heard]
      dsimp only
      rw [ending]
      cases found : caught forwarder.catches (bench.spawn step before).signals with
      | some signal =>
          have answered : bench.told forwarder.catches step before = .error (.interrupt signal) := by
            rw [told, answer, watches, found]
          refine ⟨rfl, rfl, answered.symm, ?_, asked.1, ?_⟩
          · rw [pending, watches, answer]
            exact asked.2
          · rw [answered, spawnRecords, watches]
            rfl
      | none =>
          have answered : bench.told forwarder.catches step before = .ok measured := by
            rw [told, answer, watches, found]
          refine ⟨rfl, rfl, answered.symm, ?_, passedOn.1, ?_⟩
          · rw [pending, watches, answer]
            exact passedOn.2.trans (heard.trans found)
          · rw [answered, spawnRecords, watches]
            rfl

theorem supervise_spec (bench : Bench σ) (step : Step) (forwarder : Forwarder) (before : σ)
    (inside : forwarder.IsInside) (quiet : forwarder.received = none) :
    bench.Supervises step forwarder before (bench.supervise step forwarder before) := by
  unfold supervise
  split
  · rename_i watches
    have heard := forwarder.deliver_all_received (bench.spawn step before).signals
    rw [quiet, Option.or_none] at heard
    refine ⟨rfl, rfl, ?_, ?_, Forwarder.deliver_all_alike .., ?_⟩
    · dsimp only
      rw [told, watches]
      cases (bench.spawn step before).answer <;> rfl
    · rw [pending, watches]
      exact heard
    · simp only [spawnRecords, watches, List.append_nil]
  · rename_i opensBlock watches
    exact watched_spec bench opensBlock step forwarder before watches inside quiet

end Bench

end ConstantSweep.Sweep

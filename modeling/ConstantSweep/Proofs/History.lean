import Mathlib.Data.List.Induction
import ConstantSweep.Proofs.Past

set_option autoImplicit false

namespace ConstantSweep.Signal

namespace Operation

def stack (operation : Operation) (blocks : List Bool) : List Bool :=
  match operation with
  | .enter onMainThread => onMainThread :: blocks
  | .leave => blocks.tail
  | _ => blocks

def attaches : Operation → Bool
  | .attach _ => true
  | _ => false

def exchangesChild : Operation → Bool
  | .attach _ => true
  | .detach => true
  | _ => false

end Operation

-- The blocks that are open after a history, the innermost first; each says whether it is the main thread's.
def openBlocks (history : List Operation) : List Bool :=
  history.foldl (fun blocks operation => operation.stack blocks) []

def IsOpen (history : List Operation) : Prop := true ∈ openBlocks history

instance (history : List Operation) : Decidable (IsOpen history) := inferInstanceAs (Decidable (true ∈ openBlocks history))

-- The process of the last attachment, unless it has been detached since.
def attachedAfter (history : List Operation) : Option Child :=
  match history.reverse.find? Operation.exchangesChild with
  | some (.attach isRunning) => some ⟨history.countP Operation.attaches - 1, isRunning⟩
  | _ => none

-- No block of the main thread is refused: the first one is, or none of them.
def Unrefused (covered : List Int) (history : List Operation) : Prop :=
  Operation.enter true ∈ history → ∀ signal ∈ covered, takingFault? signal = none

def dueHandler (covered : List Int) (initial : Int → Handler) (history : List Operation) (signal : Int) : Handler :=
  if signal ∈ covered ∧ IsOpen history then .forwarder else initial signal

-- What the operations of a history come to, each in the light of those before it.
def gatherAfter {α : Type} (what : List Operation → Operation → Option α) (before : List Operation) :
    List Operation → List α
  | [] => []
  | operation :: rest => (what before operation).toList ++ gatherAfter what (before ++ [operation]) rest

def gather {α : Type} (what : List Operation → Operation → Option α) (history : List Operation) : List α :=
  gatherAfter what [] history

section Histories

variable (history : List Operation) (operation : Operation)

theorem open_blocks_next : openBlocks (history ++ [operation]) = operation.stack (openBlocks history) := by
  rw [openBlocks, List.foldl_append]
  rfl

theorem is_open_next (same : ∀ blocks, operation.stack blocks = blocks) :
    IsOpen (history ++ [operation]) ↔ IsOpen history := by
  rw [IsOpen, open_blocks_next, same, IsOpen]

theorem is_open_iff : IsOpen history ↔ (openBlocks history).count true ≠ 0 := by
  rw [IsOpen, ← List.count_pos_iff, Nat.pos_iff_ne_zero]

theorem open_entered (opened : IsOpen history) : Operation.enter true ∈ history := by
  induction history using List.reverseRecOn with
  | nil => exact absurd opened List.not_mem_nil
  | append_singleton before last ih =>
      rw [List.mem_append]
      rw [IsOpen, open_blocks_next] at opened
      cases last with
      | enter onMainThread =>
          rcases List.mem_cons.mp opened with rfl | within
          · exact .inr List.mem_cons_self
          · exact .inl (ih within)
      | leave => exact .inl (ih (List.mem_of_mem_tail opened))
      | _ => exact .inl (ih opened)

theorem unrefused_before (covered : List Int) (unrefused : Unrefused covered (history ++ [operation])) :
    Unrefused covered history :=
  fun entered => unrefused (List.mem_append_left _ entered)

theorem uncounted_next (still : operation.exchangesChild = false) :
    (history ++ [operation]).countP Operation.attaches = history.countP Operation.attaches := by
  have unattached : operation.attaches = false := by
    cases operation with
    | attach isRunning => cases still
    | _ => rfl
  simp [List.countP_append, unattached]

theorem attached_next (still : operation.exchangesChild = false) :
    attachedAfter (history ++ [operation]) = attachedAfter history := by
  simp [attachedAfter, still, uncounted_next history operation still]

theorem attached_next_attach (isRunning : Bool) :
    attachedAfter (history ++ [.attach isRunning]) = some ⟨history.countP Operation.attaches, isRunning⟩ := by
  rw [attachedAfter, List.reverse_append, List.reverse_singleton, List.singleton_append, List.find?_cons_of_pos rfl,
    List.countP_append]
  rfl

theorem attached_next_detach : attachedAfter (history ++ [.detach]) = none := by
  rw [attachedAfter, List.reverse_append, List.reverse_singleton, List.singleton_append, List.find?_cons_of_pos rfl]

theorem gather_next {α : Type} (what : List Operation → Operation → Option α) :
    gather what (history ++ [operation]) = gather what history ++ (what history operation).toList := by
  suffices general : ∀ before, gatherAfter what before (history ++ [operation]) =
      gatherAfter what before history ++ (what (before ++ history) operation).toList from general []
  induction history with
  | nil => simp [gatherAfter]
  | cons first rest ih =>
      intro before
      rw [List.cons_append, gatherAfter, gatherAfter, ih, List.append_assoc, List.append_assoc, List.singleton_append]

theorem due_handler_congr (covered : List Int) (initial : Int → Handler) (first second : List Operation)
    (same : IsOpen first ↔ IsOpen second) : dueHandler covered initial first = dueHandler covered initial second := by
  funext signal
  simp only [dueHandler, same]

end Histories

namespace Operation

def caught? (operation : Operation) (covered : List Int) (history : List Operation) : Option Int :=
  match operation with
  | .raise signal => if signal ∈ covered ∧ IsOpen history then some signal else none
  | _ => none

-- Makes the forwarder forget what it caught: somebody asks for it, or a block begins that is inside no other one.
def forgets (operation : Operation) (history : List Operation) : Bool :=
  match operation with
  | .check => true
  | .enter true => !decide (IsOpen history)
  | _ => false

-- What is told to a handler that was there before, with its label.
def toldOutside? (operation : Operation) (covered : List Int) (initial : Int → Handler) (history : List Operation) :
    Option (Nat × Int) :=
  match operation with
  | .raise signal =>
      match dueHandler covered initial history signal with
      | .initial label => if reaches signal then some (label, signal) else none
      | _ => none
  | _ => none

-- What is sent to the process that is attached and runs, with its number.
def sentOn? (operation : Operation) (covered : List Int) (history : List Operation) : Option (Nat × Int) :=
  match operation.caught? covered history, attachedAfter history with
  | some signal, some ⟨number, true⟩ => some (number, signal)
  | _, _ => none

end Operation

namespace Forwarder

variable (forwarder : Forwarder)

theorem save_fresh (saved : List (Int × Handler)) (signal : Int) (handler : Handler)
    (fresh : ∀ entry ∈ saved, entry.1 ≠ signal) : save saved signal handler = saved ++ [(signal, handler)] := by
  induction saved with
  | nil => rfl
  | cons entry rest ih =>
      obtain ⟨other, old⟩ := entry
      have differs : other ≠ signal := fresh (other, old) (List.mem_cons_self ..)
      rw [save, if_neg differs, ih fun later member => fresh later (List.mem_cons_of_mem _ member)]
      rfl

theorem take_over_all (signals : List Int) (distinct : signals.Nodup)
    (fresh : ∀ signal ∈ signals, ∀ entry ∈ forwarder.saved, entry.1 ≠ signal) :
    signals.foldl takeOver forwarder =
      { forwarder with
        saved := forwarder.saved ++ signals.map fun signal => (signal, forwarder.handlers signal)
        handlers := fun signal => if signal ∈ signals then .forwarder else forwarder.handlers signal } := by
  induction signals generalizing forwarder with
  | nil => simp
  | cons first rest ih =>
      obtain ⟨unlisted, distinctRest⟩ := List.nodup_cons.mp distinct
      have savedFirst := save_fresh forwarder.saved first (forwarder.handlers first) (fresh first (List.mem_cons_self ..))
      have freshRest : ∀ signal ∈ rest, ∀ entry ∈ (forwarder.takeOver first).saved, entry.1 ≠ signal := by
        intro signal member entry listed
        rw [takeOver, savedFirst] at listed
        rcases List.mem_append.mp listed with before | here
        · exact fresh signal (List.mem_cons_of_mem _ member) entry before
        · rw [List.mem_singleton.mp here]
          rintro rfl
          exact unlisted member
      have kept : ∀ signal ∈ rest, (forwarder.takeOver first).handlers signal = forwarder.handlers signal := by
        intro signal member
        have differs : signal ≠ first := by
          rintro rfl
          exact unlisted member
        exact if_neg differs
      rw [List.foldl_cons, ih _ distinctRest freshRest, List.map_congr_left fun signal member =>
        congrArg (Prod.mk signal) (kept signal member)]
      simp only [takeOver, savedFirst, List.append_assoc, List.singleton_append, List.map_cons, Forwarder.mk.injEq,
        true_and, and_true]
      funext signal
      by_cases listed : signal ∈ rest
      · simp [listed]
      · by_cases same : signal = first <;> simp [setHandler, listed, same]

theorem give_back_all (signals : List Int) (given : Int → Handler) :
    (signals.map fun signal => (signal, given signal)).foldl giveBack forwarder =
      { forwarder with handlers := fun signal => if signal ∈ signals then given signal else forwarder.handlers signal } := by
  induction signals generalizing forwarder with
  | nil => simp
  | cons first rest ih =>
      rw [List.map_cons, List.foldl_cons, ih, giveBack]
      simp only [Forwarder.mk.injEq, true_and, and_true]
      funext signal
      by_cases listed : signal ∈ rest
      · simp [listed]
      · by_cases same : signal = first
        · simp [setHandler, same]
        · simp [setHandler, listed, same]

theorem open_outermost (outside : forwarder.depth = 0) (distinct : forwarder.covered.Nodup) :
    forwarder.openBlock =
      { forwarder with
        received := none
        saved := forwarder.covered.map fun signal => (signal, forwarder.handlers signal)
        handlers := fun signal => if signal ∈ forwarder.covered then .forwarder else forwarder.handlers signal
        depth := 1 } := by
  have taken := take_over_all { forwarder with received := none, saved := [] } forwarder.covered distinct
    fun _ _ _ => (absurd · List.not_mem_nil)
  rw [openBlock, if_pos outside, taken, List.nil_append, outside]

theorem close_outermost (signals : List Int) (given : Int → Handler) (outermost : forwarder.depth = 1)
    (saved : forwarder.saved = signals.map fun signal => (signal, given signal)) :
    forwarder.closeBlock =
      { forwarder with
        depth := 0
        saved := []
        handlers := fun signal => if signal ∈ signals then given signal else forwarder.handlers signal } := by
  have last : forwarder.depth - 1 = 0 := by omega
  have back := give_back_all { forwarder with depth := forwarder.depth - 1 } signals given
  rw [← saved, last] at back
  rw [closeBlock, last]
  exact congrArg (fun now : Forwarder => { now with saved := [] }) back

theorem handle_tells (signal : Int) :
    forwarder.handle signal =
      { forwarder with
        received := some signal
        sent := forwarder.sent ++
          (match forwarder.child with
            | some ⟨number, true⟩ => some (number, signal)
            | _ => none).toList } := by
  unfold handle
  cases forwarder.child with
  | none => simp
  | some child =>
      obtain ⟨number, isRunning⟩ := child
      cases isRunning <;> simp

-- The same but for the thread that runs, and for what is remembered or told.
def Tuned (first second : Forwarder) : Prop := ∃ onMainThread received outer sent,
  first = { second with onMainThread := onMainThread, received := received, outer := outer, sent := sent }

theorem deliver_tuned (signal : Int) : (forwarder.deliver signal).Tuned forwarder := by
  unfold deliver
  split
  · exact ⟨_, _, _, _, rfl⟩
  · exact ⟨_, _, _, _, rfl⟩
  · exact ⟨_, _, _, _, forwarder.handle_tells signal⟩

end Forwarder

namespace Session

-- A session with a forwarder that has done nothing yet, outside all blocks.
def start (covered : List Int) (initial : Int → Handler) : Session := ⟨.idle covered initial, []⟩

theorem perform_all_keeps (inv : List Operation → Session → Prop)
    (step : ∀ history session operation, inv history session →
      inv (history ++ [operation]) (session.perform operation).2)
    (session : Session) (begins : inv [] session) (history : List Operation) : inv history (session.performAll history) := by
  suffices general : ∀ before session, inv before session → inv (before ++ history) (session.performAll history) from
    general [] session begins
  induction history with
  | nil =>
      intro before session holds
      rw [List.append_nil]
      exact holds
  | cons operation rest ih =>
      intro before session holds
      rw [List.append_cons]
      exact ih _ _ (step before session operation holds)

-- The counter, the saved handlers and the real ones are what the history makes of them.
structure Reflects (covered : List Int) (initial : Int → Handler) (history : List Operation) (session : Session) :
    Prop where
  blocks : session.blocks = openBlocks history
  depth : session.forwarder.depth = (openBlocks history).count true
  covers : session.forwarder.covered = covered
  handlers : session.forwarder.handlers = dueHandler covered initial history
  saved : IsOpen history → session.forwarder.saved = covered.map fun signal => (signal, initial signal)
  child : session.forwarder.child = attachedAfter history
  childCount : session.forwarder.childCount = history.countP Operation.attaches

section Steps

variable {covered : List Int} {initial : Int → Handler} {history : List Operation} {session : Session}

theorem due_closed (closed : ¬ IsOpen history) : dueHandler covered initial history = initial := by
  funext signal
  exact if_neg fun due => closed due.2

theorem start_reflects : Reflects covered initial [] (start covered initial) := by
  have closed : ¬ IsOpen [] := List.not_mem_nil
  exact ⟨rfl, rfl, rfl, (due_closed closed).symm, fun opened => absurd opened closed, rfl, rfl⟩

-- An operation that leaves the blocks of the main thread and the process alone changes only what is remembered or told.
theorem quiet_reflects (reflects : Reflects covered initial history session) (operation : Operation) (after : Session)
    (still : operation.exchangesChild = false) (blocks : after.blocks = openBlocks (history ++ [operation]))
    (count : (openBlocks (history ++ [operation])).count true = (openBlocks history).count true)
    (tuned : after.forwarder.Tuned session.forwarder) :
    Reflects covered initial (history ++ [operation]) after := by
  have same : IsOpen (history ++ [operation]) ↔ IsOpen history := by
    rw [is_open_iff, is_open_iff, count]
  obtain ⟨onMainThread, received, outer, sent, now⟩ := tuned
  refine ⟨blocks, ?_, ?_, ?_, ?_, ?_, ?_⟩ <;> rw [now]
  · exact reflects.depth.trans count.symm
  · exact reflects.covers
  · exact reflects.handlers.trans (due_handler_congr covered initial _ _ same.symm)
  · exact fun opened => reflects.saved (same.mp opened)
  · exact reflects.child.trans (attached_next history operation still).symm
  · exact reflects.childCount.trans (uncounted_next history operation still).symm

theorem open_reflects (distinct : covered.Nodup) (reflects : Reflects covered initial history session) :
    Reflects covered initial (history ++ [.enter true]) ⟨session.forwarder.openBlock, true :: session.blocks⟩ := by
  have blocks : openBlocks (history ++ [.enter true]) = true :: openBlocks history := open_blocks_next history _
  have opened : IsOpen (history ++ [.enter true]) := by
    rw [IsOpen, blocks]
    exact List.mem_cons_self ..
  have count : (openBlocks (history ++ [.enter true])).count true = session.forwarder.depth + 1 := by
    rw [blocks, List.count_cons_self, reflects.depth]
  have child := reflects.child.trans (attached_next history (.enter true) rfl).symm
  have childCount := reflects.childCount.trans (uncounted_next history (.enter true) rfl).symm
  have pushed : true :: session.blocks = openBlocks (history ++ [.enter true]) := by
    rw [blocks, reflects.blocks]
  by_cases outside : session.forwarder.depth = 0
  · have closed : ¬ IsOpen history := by
      rw [is_open_iff, ← reflects.depth]
      exact fun differs => differs outside
    have entered := session.forwarder.open_outermost outside (reflects.covers.symm ▸ distinct)
    rw [reflects.covers, reflects.handlers, due_closed closed] at entered
    rw [entered]
    refine ⟨pushed, ?_, rfl, ?_, fun _ => rfl, child, childCount⟩
    · rw [count, outside]
    · funext signal
      by_cases listed : signal ∈ covered <;> simp [dueHandler, listed, opened]
  · have wasOpen : IsOpen history := by
      rw [is_open_iff, ← reflects.depth]
      exact outside
    have same := due_handler_congr covered initial _ _ (iff_of_true wasOpen opened)
    rw [session.forwarder.open_inside outside]
    exact ⟨pushed, count.symm, reflects.covers, reflects.handlers.trans same, fun _ => reflects.saved wasOpen, child,
      childCount⟩

theorem close_reflects (reflects : Reflects covered initial history session) (blocks : List Bool)
    (inside : session.blocks = true :: blocks) :
    Reflects covered initial (history ++ [.leave]) ⟨session.forwarder.closeBlock, blocks⟩ := by
  have before : openBlocks history = true :: blocks := reflects.blocks.symm.trans inside
  have popped : openBlocks (history ++ [.leave]) = blocks := by
    rw [open_blocks_next, before]
    rfl
  have wasOpen : IsOpen history := by
    rw [IsOpen, before]
    exact List.mem_cons_self ..
  have depth : session.forwarder.depth = blocks.count true + 1 := by
    rw [reflects.depth, before, List.count_cons_self]
  have child := reflects.child.trans (attached_next history .leave rfl).symm
  have childCount := reflects.childCount.trans (uncounted_next history .leave rfl).symm
  by_cases outermost : blocks.count true = 0
  · have closed : ¬ IsOpen (history ++ [.leave]) := by
      rw [is_open_iff, popped]
      exact fun differs => differs outermost
    rw [outermost] at depth
    rw [session.forwarder.close_outermost covered initial depth (reflects.saved wasOpen)]
    refine ⟨popped.symm, ?_, reflects.covers, ?_, fun opened => absurd opened closed, child, childCount⟩
    · rw [popped, outermost]
    · rw [due_closed closed, reflects.handlers]
      funext signal
      by_cases listed : signal ∈ covered <;> simp [dueHandler, listed]
  · have opened : IsOpen (history ++ [.leave]) := by
      rw [is_open_iff, popped]
      exact outermost
    have nested : session.forwarder.depth - 1 = blocks.count true := by omega
    have same := due_handler_congr covered initial _ _ (iff_of_true wasOpen opened)
    rw [session.forwarder.close_nested (nested.symm ▸ outermost)]
    refine ⟨popped.symm, ?_, reflects.covers, reflects.handlers.trans same, fun _ => reflects.saved wasOpen, child,
      childCount⟩
    rw [popped]
    exact nested

theorem attach_reflects (reflects : Reflects covered initial history session) (isRunning : Bool) :
    Reflects covered initial (history ++ [.attach isRunning])
      { session with forwarder := session.forwarder.attach isRunning } := by
  have blocks : openBlocks (history ++ [.attach isRunning]) = openBlocks history := open_blocks_next history _
  have same := due_handler_congr covered initial _ _ (is_open_next history (.attach isRunning) fun _ => rfl).symm
  refine ⟨reflects.blocks.trans blocks.symm, ?_, reflects.covers, reflects.handlers.trans same, ?_, ?_, ?_⟩
  · rw [blocks]
    exact reflects.depth
  · exact fun opened => reflects.saved ((is_open_next history (.attach isRunning) fun _ => rfl).mp opened)
  · rw [attached_next_attach, ← reflects.childCount]
    rfl
  · rw [List.countP_append, ← reflects.childCount]
    rfl

theorem detach_reflects (reflects : Reflects covered initial history session) :
    Reflects covered initial (history ++ [.detach]) { session with forwarder := session.forwarder.detach } := by
  have blocks : openBlocks (history ++ [.detach]) = openBlocks history := open_blocks_next history _
  have same := due_handler_congr covered initial _ _ (is_open_next history .detach fun _ => rfl).symm
  refine ⟨reflects.blocks.trans blocks.symm, ?_, reflects.covers, reflects.handlers.trans same, ?_, ?_, ?_⟩
  · rw [blocks]
    exact reflects.depth
  · exact fun opened => reflects.saved ((is_open_next history .detach fun _ => rfl).mp opened)
  · rw [attached_next_detach]
    rfl
  · rw [List.countP_append, ← reflects.childCount]
    rfl

theorem on_reflects (onMainThread : Bool) (reflects : Reflects covered initial history session) :
    Reflects covered initial history { session with forwarder := session.forwarder.on onMainThread } :=
  ⟨reflects.blocks, reflects.depth, reflects.covers, reflects.handlers, reflects.saved, reflects.child,
    reflects.childCount⟩

theorem enter_unrefused (reflects : Reflects covered initial history session) (onMainThread : Bool)
    (unrefused : Unrefused covered (history ++ [.enter onMainThread])) : session.fault? (.enter onMainThread) = none := by
  cases onMainThread with
  | false => rfl
  | true =>
      rw [fault?, reflects.covers]
      split
      · rw [List.findSome?_eq_none_iff]
        exact unrefused (List.mem_append_right _ List.mem_cons_self)
      · rfl

theorem perform_enter (onMainThread : Bool) (unrefused : session.fault? (.enter onMainThread) = none) :
    session.perform (.enter onMainThread) =
      (none, ⟨(session.forwarder.on onMainThread).enter, onMainThread :: session.blocks⟩) := by
  rw [perform, unrefused]

theorem raise_reflects (reflects : Reflects covered initial history session) (signal : Int) :
    Reflects covered initial (history ++ [.raise signal]) (session.perform (.raise signal)).2 := by
  have blocks := open_blocks_next history (.raise signal)
  have settled := reflects.blocks.trans blocks.symm
  rw [perform]
  dsimp only
  split
  · exact quiet_reflects reflects (.raise signal) _ rfl settled (congrArg _ blocks) (session.forwarder.deliver_tuned signal)
  · exact quiet_reflects reflects (.raise signal) _ rfl settled (congrArg _ blocks) ⟨_, _, _, _, rfl⟩

theorem leave_reflects (reflects : Reflects covered initial history session) :
    Reflects covered initial (history ++ [.leave]) (session.perform .leave).2 := by
  have popped : openBlocks (history ++ [.leave]) = session.blocks.tail := by
    rw [open_blocks_next, ← reflects.blocks]
    rfl
  unfold perform
  dsimp only
  split
  · rename_i none
    refine quiet_reflects reflects .leave _ rfl ?_ ?_ ⟨_, _, _, _, rfl⟩
    · rw [popped, none]
      rfl
    · rw [popped, ← reflects.blocks, none]
      rfl
  · rename_i onMainThread rest inside
    cases onMainThread with
    | true => exact close_reflects (on_reflects true reflects) rest inside
    | false =>
        refine quiet_reflects reflects .leave _ rfl ?_ ?_ ⟨_, _, _, _, rfl⟩
        · rw [popped, inside]
          rfl
        · rw [popped, ← reflects.blocks, inside]
          exact (List.count_cons_of_ne (by decide)).symm

theorem perform_reflects (distinct : covered.Nodup) (reflects : Reflects covered initial history session)
    (operation : Operation) (unrefused : Unrefused covered (history ++ [operation])) :
    Reflects covered initial (history ++ [operation]) (session.perform operation).2 := by
  have blocks := open_blocks_next history operation
  cases operation with
  | enter onMainThread =>
      rw [perform_enter onMainThread (enter_unrefused reflects onMainThread unrefused)]
      cases onMainThread with
      | true => exact open_reflects distinct (on_reflects true reflects)
      | false =>
          refine quiet_reflects reflects (.enter false) _ rfl ?_ ?_ ⟨_, _, _, _, rfl⟩
          · rw [blocks]
            exact congrArg (List.cons false) reflects.blocks
          · rw [blocks]
            exact List.count_cons_of_ne (by decide)
  | leave => exact leave_reflects reflects
  | raise signal => exact raise_reflects reflects signal
  | attach isRunning => exact attach_reflects reflects isRunning
  | detach => exact detach_reflects reflects
  | check =>
      exact quiet_reflects reflects .check _ rfl (reflects.blocks.trans blocks.symm) (congrArg _ blocks) ⟨_, _, _, _, rfl⟩

structure Tells (covered : List Int) (initial : Int → Handler) (history : List Operation) (operation : Operation)
    (before after : Forwarder) : Prop where
  received : after.received =
    if operation.forgets history then none else (operation.caught? covered history).or before.received
  outer : after.outer = before.outer ++ (operation.toldOutside? covered initial history).toList
  sent : after.sent = before.sent ++ (operation.sentOn? covered history).toList

theorem tells_nothing (operation : Operation) (before after : Forwarder) (unforgotten : operation.forgets history = false)
    (uncaught : operation.caught? covered history = none)
    (untold : operation.toldOutside? covered initial history = none)
    (same : after.received = before.received ∧ after.outer = before.outer ∧ after.sent = before.sent) :
    Tells covered initial history operation before after := by
  refine ⟨?_, ?_, ?_⟩
  · simpa [unforgotten, uncaught] using same.1
  · simpa [untold] using same.2.1
  · simpa [Operation.sentOn?, uncaught] using same.2.2

theorem open_tells (distinct : covered.Nodup) (reflects : Reflects covered initial history session) :
    Tells covered initial history (.enter true) session.forwarder session.forwarder.openBlock := by
  by_cases outside : session.forwarder.depth = 0
  · have closed : ¬ IsOpen history := by
      rw [is_open_iff, ← reflects.depth]
      exact fun differs => differs outside
    rw [session.forwarder.open_outermost outside (reflects.covers.symm ▸ distinct)]
    refine ⟨?_, ?_, ?_⟩
    · simp [Operation.forgets, closed]
    · simp [Operation.toldOutside?]
    · simp [Operation.sentOn?, Operation.caught?]
  · have wasOpen : IsOpen history := by
      rw [is_open_iff, ← reflects.depth]
      exact outside
    rw [session.forwarder.open_inside outside]
    refine tells_nothing (.enter true) _ _ ?_ rfl rfl ⟨rfl, rfl, rfl⟩
    simp [Operation.forgets, wasOpen]

theorem close_tells (reflects : Reflects covered initial history session) (wasOpen : IsOpen history) :
    Tells covered initial history .leave session.forwarder session.forwarder.closeBlock := by
  refine tells_nothing .leave _ _ rfl rfl rfl ?_
  by_cases nested : session.forwarder.depth - 1 = 0
  · have depth : session.forwarder.depth ≠ 0 := by
      rw [reflects.depth, ← is_open_iff]
      exact wasOpen
    rw [session.forwarder.close_outermost covered initial (by omega) (reflects.saved wasOpen)]
    exact ⟨rfl, rfl, rfl⟩
  · rw [session.forwarder.close_nested nested]
    exact ⟨rfl, rfl, rfl⟩

theorem leave_tells (reflects : Reflects covered initial history session) :
    Tells covered initial history .leave session.forwarder (session.perform .leave).2.forwarder := by
  unfold perform
  dsimp only
  split
  · exact tells_nothing _ _ _ rfl rfl rfl ⟨rfl, rfl, rfl⟩
  · rename_i onMainThread rest inside
    cases onMainThread with
    | true =>
        have wasOpen : IsOpen history := by
          rw [IsOpen, ← reflects.blocks, inside]
          exact List.mem_cons_self ..
        have tells := close_tells (on_reflects true reflects) wasOpen
        exact ⟨tells.received, tells.outer, tells.sent⟩
    | false => exact tells_nothing _ _ _ rfl rfl rfl ⟨rfl, rfl, rfl⟩

theorem takeable_reaches (signal : Int) (takeable : takingFault? signal = none) : reaches signal = true := by
  rw [takingFault?] at takeable
  split at takeable
  · cases takeable
  · split at takeable
    · cases takeable
    · rename_i inRange
      rw [Bool.or_eq_true, decide_eq_true_iff, decide_eq_true_iff] at inRange
      rw [reaches, Bool.and_eq_true, decide_eq_true_iff, decide_eq_true_iff]
      omega

theorem caught_reaches (unrefused : Unrefused covered history) (signal : Int) (due : signal ∈ covered ∧ IsOpen history) :
    reaches signal = true :=
  takeable_reaches signal (unrefused (open_entered history due.2) signal due.1)

theorem deliver_tells (foreign : ∀ signal, initial signal ≠ .forwarder)
    (reflects : Reflects covered initial history session) (signal : Int) (reached : reaches signal = true) :
    Tells covered initial history (.raise signal) session.forwarder (session.forwarder.deliver signal) := by
  have handler : session.forwarder.handlers signal = dueHandler covered initial history signal :=
    congrFun reflects.handlers signal
  by_cases due : signal ∈ covered ∧ IsOpen history
  · have caught : (Operation.raise signal).caught? covered history = some signal := if_pos due
    have mine : dueHandler covered initial history signal = .forwarder := if_pos due
    rw [Forwarder.deliver, handler, mine]
    dsimp only
    rw [Forwarder.handle_tells]
    refine ⟨?_, ?_, ?_⟩
    · rw [caught]
      rfl
    · rw [Operation.toldOutside?, mine, Option.toList_none, List.append_nil]
    · rw [Operation.sentOn?, caught, reflects.child]
      rcases attachedAfter history with _ | ⟨number, _ | _⟩ <;> rfl
  · have uncaught : (Operation.raise signal).caught? covered history = none := if_neg due
    have theirs : dueHandler covered initial history signal = initial signal := if_neg due
    rw [Forwarder.deliver, handler, theirs]
    cases first : initial signal with
    | ignored =>
        refine tells_nothing (.raise signal) _ _ rfl uncaught ?_ ⟨rfl, rfl, rfl⟩
        rw [Operation.toldOutside?, theirs, first]
    | initial label =>
        refine ⟨?_, ?_, ?_⟩
        · rw [uncaught]
          rfl
        · rw [Operation.toldOutside?, theirs, first]
          dsimp only
          rw [if_pos reached]
          rfl
        · rw [Operation.sentOn?, uncaught]
          exact (List.append_nil _).symm
    | forwarder => exact absurd first (foreign signal)

theorem raise_tells (foreign : ∀ signal, initial signal ≠ .forwarder)
    (reflects : Reflects covered initial history session) (unrefused : Unrefused covered history) (signal : Int) :
    Tells covered initial history (.raise signal) session.forwarder (session.perform (.raise signal)).2.forwarder := by
  rw [perform]
  dsimp only
  split
  · rename_i reached
    exact deliver_tells foreign reflects signal reached
  · rename_i lost
    have undue : ¬ (signal ∈ covered ∧ IsOpen history) := fun due => lost (caught_reaches unrefused signal due)
    refine tells_nothing (.raise signal) _ _ rfl (if_neg undue) ?_ ⟨rfl, rfl, rfl⟩
    rw [Operation.toldOutside?]
    cases dueHandler covered initial history signal with
    | initial label => exact if_neg lost
    | _ => rfl

theorem perform_tells (distinct : covered.Nodup) (foreign : ∀ signal, initial signal ≠ .forwarder)
    (reflects : Reflects covered initial history session) (operation : Operation)
    (unrefused : Unrefused covered (history ++ [operation])) :
    Tells covered initial history operation session.forwarder (session.perform operation).2.forwarder := by
  cases operation with
  | enter onMainThread =>
      rw [perform_enter onMainThread (enter_unrefused reflects onMainThread unrefused)]
      cases onMainThread with
      | true =>
          have tells := open_tells distinct (on_reflects true reflects)
          exact ⟨tells.received, tells.outer, tells.sent⟩
      | false => exact tells_nothing _ _ _ rfl rfl rfl ⟨rfl, rfl, rfl⟩
  | leave => exact leave_tells reflects
  | raise signal => exact raise_tells foreign reflects (unrefused_before history _ covered unrefused) signal
  | attach isRunning => exact tells_nothing _ _ _ rfl rfl rfl ⟨rfl, rfl, rfl⟩
  | detach => exact tells_nothing _ _ _ rfl rfl rfl ⟨rfl, rfl, rfl⟩
  | check =>
      refine ⟨rfl, ?_, ?_⟩
      · exact (List.append_nil _).symm
      · exact (List.append_nil _).symm

end Steps

theorem session_reflects (covered : List Int) (distinct : covered.Nodup) (initial : Int → Handler)
    (history : List Operation) (unrefused : Unrefused covered history) :
    Reflects covered initial history ((start covered initial).performAll history) := by
  refine perform_all_keeps (fun history session => Unrefused covered history → Reflects covered initial history session)
    ?_ _ (fun _ => start_reflects) history unrefused
  intro before session operation reflects unrefused
  exact perform_reflects distinct (reflects (unrefused_before before operation covered unrefused)) operation unrefused

theorem session_keeps (covered : List Int) (distinct : covered.Nodup) (initial : Int → Handler)
    (foreign : ∀ signal, initial signal ≠ .forwarder) (inv : List Operation → Forwarder → Prop)
    (begins : inv [] (.idle covered initial))
    (step : ∀ before operation forwarder after, Tells covered initial before operation forwarder after →
      inv before forwarder → inv (before ++ [operation]) after)
    (history : List Operation) (unrefused : Unrefused covered history) :
    inv history ((start covered initial).performAll history).forwarder := by
  refine (perform_all_keeps (fun history session => Unrefused covered history →
    Reflects covered initial history session ∧ inv history session.forwarder) ?_ _ (fun _ => ⟨start_reflects, begins⟩)
    history unrefused).2
  intro before session operation holds unrefused
  obtain ⟨reflects, kept⟩ := holds (unrefused_before before operation covered unrefused)
  exact ⟨perform_reflects distinct reflects operation unrefused,
    step before operation _ _ (perform_tells distinct foreign reflects operation unrefused) kept⟩

end Session

end ConstantSweep.Signal

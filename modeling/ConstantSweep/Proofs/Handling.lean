import ConstantSweep.Proofs.History

set_option autoImplicit false

namespace ConstantSweep.Signal

namespace Session

-- What becomes of a session if an operation is refused. Of a block that cannot begin, the signals before the one that
-- cannot be taken over stay taken over.
inductive Refusal (covered : List Int) (session : Session) : Operation → Fault → Session → Prop where
  | block (early late : List Int) (signal : Int) (fault : Fault) : covered = early ++ signal :: late →
      (∀ other ∈ early, takingFault? other = none) → takingFault? signal = some fault →
      Refusal covered session (.enter true) fault { session with
        forwarder := { session.forwarder with
          onMainThread := true
          received := none
          handlers := fun other => if other ∈ early then .forwarder else session.forwarder.handlers other } }
  | leave : session.blocks = [] → Refusal covered session .leave .indexOutOfRange session
  | raise (signal : Int) (fault : Fault) : raisingFault? signal = some fault →
      Refusal covered session (.raise signal) fault session

-- Who handles signals in a session after a history, and what is handled.
structure Disciplined (covered : List Int) (initial : Int → Handler) (history : List Operation) (session : Session) :
    Prop where
  inForce : ∀ signal, session.forwarder.handlers signal = .forwarder ↔ signal ∈ covered ∧ IsOpen history
  others : ∀ signal, signal ∉ covered → session.forwarder.handlers signal = initial signal
  restored : ¬ IsOpen history → session.forwarder.handlers = initial
  -- A signal is handled once: it is remembered and passed on to a process that runs, or it is told to the first handler.
  caught : ∀ signal ∈ covered, IsOpen history → (session.perform (.raise signal)).2 = { session with
    forwarder := { session.forwarder with
      received := some signal
      sent := session.forwarder.sent ++ match attachedAfter history with
        | some ⟨number, true⟩ => [(number, signal)]
        | _ => [] } }
  told : ∀ signal label, 1 ≤ signal → signal ≤ 64 → ¬ (signal ∈ covered ∧ IsOpen history) →
    initial signal = .initial label → (session.perform (.raise signal)).2 = { session with
      forwarder := { session.forwarder with outer := session.forwarder.outer ++ [(label, signal)] } }
  ignored : ∀ signal, ¬ (signal ∈ covered ∧ IsOpen history) → initial signal = .ignored →
    (session.perform (.raise signal)).2 = session
  -- Nothing else makes a handler take a signal.
  unhandled : ∀ operation : Operation, (∀ signal, operation ≠ .raise signal) →
    (session.perform operation).2.forwarder.outer = session.forwarder.outer ∧
      (session.perform operation).2.forwarder.sent = session.forwarder.sent ∧
      ((session.perform operation).2.forwarder.received = session.forwarder.received ∨
        (session.perform operation).2.forwarder.received = none)
  outer : session.forwarder.outer = gather (fun before operation => operation.toldOutside? covered initial before) history
  refused : ∀ operation fault, session.fault? operation = some fault →
    Refusal covered session operation fault (session.perform operation).2

variable {covered : List Int} {initial : Int → Handler} {history : List Operation} {session : Session}

theorem reflected_in_force (foreign : ∀ signal, initial signal ≠ .forwarder)
    (reflects : Reflects covered initial history session) (signal : Int) :
    session.forwarder.handlers signal = .forwarder ↔ signal ∈ covered ∧ IsOpen history := by
  rw [reflects.handlers, dueHandler]
  by_cases due : signal ∈ covered ∧ IsOpen history
  · rw [if_pos due]
    exact iff_of_true rfl due
  · rw [if_neg due]
    exact iff_of_false (foreign signal) due

theorem raise_reached (signal : Int) (reached : reaches signal = true) :
    (session.perform (.raise signal)).2 = { session with forwarder := session.forwarder.deliver signal } := by
  rw [perform]
  dsimp only
  rw [if_pos reached]

theorem raise_caught (reflects : Reflects covered initial history session) (unrefused : Unrefused covered history)
    (signal : Int) (due : signal ∈ covered ∧ IsOpen history) :
    (session.perform (.raise signal)).2 = { session with
      forwarder := { session.forwarder with
        received := some signal
        sent := session.forwarder.sent ++ match attachedAfter history with
          | some ⟨number, true⟩ => [(number, signal)]
          | _ => [] } } := by
  have mine : session.forwarder.handlers signal = .forwarder := by
    rw [reflects.handlers]
    exact if_pos due
  rw [raise_reached signal (caught_reaches unrefused signal due), Forwarder.deliver, mine]
  dsimp only
  rw [Forwarder.handle_tells, reflects.child]
  rcases attachedAfter history with _ | ⟨number, _ | _⟩ <;> rfl

theorem raise_other (reflects : Reflects covered initial history session) (signal : Int)
    (undue : ¬ (signal ∈ covered ∧ IsOpen history)) : session.forwarder.handlers signal = initial signal := by
  rw [reflects.handlers]
  exact if_neg undue

theorem raise_told (reflects : Reflects covered initial history session) (signal : Int) (label : Nat)
    (least : 1 ≤ signal) (most : signal ≤ 64) (undue : ¬ (signal ∈ covered ∧ IsOpen history))
    (first : initial signal = .initial label) :
    (session.perform (.raise signal)).2 = { session with
      forwarder := { session.forwarder with outer := session.forwarder.outer ++ [(label, signal)] } } := by
  have reached : reaches signal = true := by
    rw [reaches, lastSignal, Bool.and_eq_true, decide_eq_true_iff, decide_eq_true_iff]
    omega
  rw [raise_reached signal reached, Forwarder.deliver, raise_other reflects signal undue, first]

theorem raise_ignored (reflects : Reflects covered initial history session) (signal : Int)
    (undue : ¬ (signal ∈ covered ∧ IsOpen history)) (first : initial signal = .ignored) :
    (session.perform (.raise signal)).2 = session := by
  rw [perform]
  dsimp only
  rw [Forwarder.deliver, raise_other reflects signal undue, first]
  exact ite_self session

theorem take_all (forwarder : Forwarder) (signals : List Int) :
    signals.foldl (fun now signal => { now with handlers := Forwarder.setHandler now.handlers signal .forwarder })
        forwarder =
      { forwarder with handlers := fun other => if other ∈ signals then .forwarder else forwarder.handlers other } := by
  induction signals generalizing forwarder with
  | nil => simp
  | cons first rest ih =>
      rw [List.foldl_cons, ih]
      simp only [Forwarder.mk.injEq, true_and, and_true]
      funext other
      by_cases listed : other ∈ rest
      · simp [listed]
      · by_cases same : other = first <;> simp [Forwarder.setHandler, listed, same]

theorem refused_first (signals : List Int) (fault : Fault) (refused : signals.findSome? takingFault? = some fault) :
    ∃ signal late, signals = (signals.takeWhile fun signal => (takingFault? signal).isNone) ++ signal :: late ∧
      takingFault? signal = some fault := by
  obtain ⟨early, signal, late, parts, found, before⟩ := List.findSome?_eq_some_iff.mp refused
  have kept : ∀ other ∈ early, (takingFault? other).isNone = true := fun other member =>
    Option.isNone_iff_eq_none.mpr (before other member)
  refine ⟨signal, late, ?_, found⟩
  rw [parts, List.takeWhile_append_of_pos kept, List.takeWhile_cons, found]
  simp

theorem block_refused (fault : Fault) (refused : session.fault? (.enter true) = some fault) :
    Refusal session.forwarder.covered session (.enter true) fault (session.perform (.enter true)).2 := by
  have found : session.forwarder.covered.findSome? takingFault? = some fault := by
    rw [fault?] at refused
    split at refused
    · exact refused
    · cases refused
  obtain ⟨signal, late, parts, taken⟩ := refused_first _ fault found
  have now : (session.perform (.enter true)).2 =
      { session with forwarder := (session.forwarder.on true).refuse } := by
    rw [perform, refused]
  rw [now, Forwarder.refuse, take_all]
  refine .block _ late signal fault parts (fun other member => ?_) taken
  exact Option.isNone_iff_eq_none.mp (List.all_eq_true.mp List.all_takeWhile other member)

theorem unraisable_lost (signal : Int) (fault : Fault) (refused : raisingFault? signal = some fault) :
    reaches signal = false := by
  rw [raisingFault?] at refused
  rw [reaches, Bool.and_eq_false_iff, decide_eq_false_iff_not, decide_eq_false_iff_not]
  split at refused
  · rename_i exceeds
    rw [exceedsWord, Bool.or_eq_true, decide_eq_true_iff, decide_eq_true_iff] at exceeds
    rw [lastSignal]
    simp only [Nat.pow_eq] at exceeds
    omega
  · split at refused
    · rename_i outside
      rw [Bool.or_eq_true, decide_eq_true_iff, decide_eq_true_iff] at outside
      omega
    · cases refused

theorem perform_refused (reflects : Reflects covered initial history session) (operation : Operation) (fault : Fault)
    (refused : session.fault? operation = some fault) :
    Refusal covered session operation fault (session.perform operation).2 := by
  obtain rfl := reflects.covers
  cases operation with
  | enter onMainThread =>
      cases onMainThread with
      | false => cases refused
      | true => exact block_refused fault refused
  | leave =>
      rw [fault?] at refused
      split at refused
      · rename_i none
        rw [List.isEmpty_iff] at none
        cases refused
        have now : (session.perform .leave).2 = session := by
          rw [perform, none]
        rw [now]
        exact .leave none
      · cases refused
  | raise signal =>
      have now : (session.perform (.raise signal)).2 = session := by
        rw [perform]
        dsimp only
        rw [unraisable_lost signal fault refused, if_neg Bool.false_ne_true]
      rw [now]
      exact .raise signal fault refused
  | _ => cases refused

theorem unrefused_next (reflects : Reflects covered initial history session) (unrefused : Unrefused covered history)
    (operation : Operation) (performed : session.fault? operation = none) :
    Unrefused covered (history ++ [operation]) := by
  intro entered
  rcases List.mem_append.mp entered with before | now
  · exact unrefused before
  · obtain rfl := List.mem_singleton.mp now
    -- A block inside another one takes nothing over, so what it needs was there when the outermost one began.
    by_cases wasOpen : IsOpen history
    · exact unrefused (open_entered history wasOpen)
    · have outside : session.forwarder.depth = 0 := by
        rw [is_open_iff, ← reflects.depth] at wasOpen
        exact not_not.mp wasOpen
      rw [fault?, if_pos outside, reflects.covers, List.findSome?_eq_none_iff] at performed
      exact performed

theorem perform_unhandled (distinct : covered.Nodup) (foreign : ∀ signal, initial signal ≠ .forwarder)
    (reflects : Reflects covered initial history session) (unrefused : Unrefused covered history) (operation : Operation)
    (calm : ∀ signal, operation ≠ .raise signal) :
    (session.perform operation).2.forwarder.outer = session.forwarder.outer ∧
      (session.perform operation).2.forwarder.sent = session.forwarder.sent ∧
      ((session.perform operation).2.forwarder.received = session.forwarder.received ∨
        (session.perform operation).2.forwarder.received = none) := by
  cases performed : session.fault? operation with
  | some fault =>
      have refusal := perform_refused reflects operation fault performed
      generalize (session.perform operation).2 = after at refusal
      cases refusal with
      | block early late signal fault _ _ _ => exact ⟨rfl, rfl, .inr rfl⟩
      | leave none => exact ⟨rfl, rfl, .inl rfl⟩
      | raise signal fault _ => exact ⟨rfl, rfl, .inl rfl⟩
  | none =>
      have tells := perform_tells distinct foreign reflects operation
        (unrefused_next reflects unrefused operation performed)
      have silent : operation.caught? covered history = none ∧
          operation.toldOutside? covered initial history = none := by
        cases operation with
        | raise signal => exact absurd rfl (calm signal)
        | _ => exact ⟨rfl, rfl⟩
      obtain ⟨uncaught, untold⟩ := silent
      refine ⟨?_, ?_, ?_⟩
      · rw [tells.outer, untold, Option.toList_none, List.append_nil]
      · rw [tells.sent, Operation.sentOn?, uncaught]
        exact List.append_nil _
      · rw [tells.received, uncaught, Option.none_or]
        cases operation.forgets history with
        | false => exact .inl rfl
        | true => exact .inr rfl

theorem session_outer (distinct : covered.Nodup) (foreign : ∀ signal, initial signal ≠ .forwarder)
    (history : List Operation) (unrefused : Unrefused covered history) :
    ((start covered initial).performAll history).forwarder.outer =
      gather (fun before operation => operation.toldOutside? covered initial before) history := by
  refine session_keeps covered distinct initial foreign (fun history forwarder => forwarder.outer =
    gather (fun before operation => operation.toldOutside? covered initial before) history) rfl ?_ history unrefused
  intro before operation forwarder after tells outer
  rw [tells.outer, outer, gather_next]

end Session

-- Whatever was done in a session of which no block was refused: the forwarder is in force exactly where and while it
-- should be, and each signal is handled once, by whoever is in force for it.
theorem handlers_follow_blocks (covered : List Int) (distinct : covered.Nodup) (initial : Int → Handler)
    (foreign : ∀ signal, initial signal ≠ .forwarder) (history : List Operation) (unrefused : Unrefused covered history) :
    Session.Disciplined covered initial history ((Session.start covered initial).performAll history) := by
  have reflects := Session.session_reflects covered distinct initial history unrefused
  refine ⟨Session.reflected_in_force foreign reflects, ?_, ?_, ?_, Session.raise_told reflects,
    Session.raise_ignored reflects, Session.perform_unhandled distinct foreign reflects unrefused,
    Session.session_outer distinct foreign history unrefused, Session.perform_refused reflects⟩
  · intro signal uncovered
    rw [reflects.handlers]
    exact if_neg fun due => uncovered due.1
  · intro closed
    rw [reflects.handlers]
    exact Session.due_closed closed
  · intro signal listed opened
    exact Session.raise_caught reflects unrefused signal ⟨listed, opened⟩

theorem handlers_follow_blocks_once :
    ([2, 15] : List Int).Nodup ∧ (∀ signal : Int, (fun _ => Handler.initial 7) signal ≠ .forwarder) ∧
      Unrefused [2, 15] [.enter true, .enter false, .raise 15, .leave, .leave, .raise 15] ∧
      ((Session.start [2, 15] fun _ => .initial 7).performAll
        [.enter true, .enter false, .raise 15, .leave, .leave, .raise 15]).forwarder.outer = [(7, 15)] ∧
      Session.Disciplined [2, 15] (fun _ => .initial 7)
        [.enter true, .enter false, .raise 15, .leave, .leave, .raise 15]
        ((Session.start [2, 15] fun _ => .initial 7).performAll
          [.enter true, .enter false, .raise 15, .leave, .leave, .raise 15]) := by
  have distinct : ([2, 15] : List Int).Nodup := by decide
  have foreign : ∀ signal : Int, (fun _ => Handler.initial 7) signal ≠ .forwarder := fun _ => Handler.noConfusion
  have unrefused : Unrefused [2, 15] [.enter true, .enter false, .raise 15, .leave, .leave, .raise 15] :=
    fun _ => by decide +kernel
  exact ⟨distinct, foreign, unrefused, by decide +kernel,
    handlers_follow_blocks [2, 15] distinct _ foreign _ unrefused⟩

end ConstantSweep.Signal

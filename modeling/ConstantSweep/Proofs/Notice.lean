import ConstantSweep.Proofs.Call
import ConstantSweep.Proofs.Handling

set_option autoImplicit false

namespace ConstantSweep.Signal

open ConstantSweep.Sweep

-- The last signal that was caught, if since then nobody has asked for it and no outermost block has begun.
def Pending (covered : List Int) (history : List Operation) (signal : Int) : Prop :=
  ∃ before after, history = before ++ .raise signal :: after ∧ signal ∈ covered ∧ IsOpen before ∧
    ∀ between operation later, after = between ++ operation :: later →
      operation.forgets (before ++ .raise signal :: between) = false ∧
        operation.caught? covered (before ++ .raise signal :: between) = none

-- The signal that is raised, if it is caught while the process of a number is attached and runs.
def Operation.sentTo? (operation : Operation) (covered : List Int) (number : Nat) (history : List Operation) :
    Option Int :=
  match operation with
  | .raise signal =>
      if signal ∈ covered ∧ IsOpen history ∧ attachedAfter history = some ⟨number, true⟩ then some signal else none
  | _ => none

def Forwarder.sentTo (forwarder : Forwarder) (number : Nat) : List Int :=
  forwarder.sent.filterMap fun entry => if entry.1 = number then some entry.2 else none

namespace Session

-- What a check would tell in a session after a history, and what processes were sent in it.
structure Notices (covered : List Int) (history : List Operation) (session : Session) : Prop where
  told : ∀ signal, (session.perform .check).1 = some signal ↔ Pending covered history signal
  -- A run that asks for the signal is halted by it.
  halts : ∀ (σ : Type) (state : State σ) (value step : Option Int), state.forwarder = session.forwarder →
    (State.check value step state).2 =
      (session.perform .check).1.map fun signal => .error (.interrupted signal value step)
  cleared : ((session.perform .check).2.perform .check).1 = none
  -- A block that begins inside another one, or on another thread, and the end of any block keep the signal.
  entered : ∀ onMainThread, (onMainThread = true → IsOpen history) →
    ((session.perform (.enter onMainThread)).2.perform .check).1 = (session.perform .check).1
  left : ((session.perform .leave).2.perform .check).1 = (session.perform .check).1
  sent : ∀ number, session.forwarder.sentTo number =
    gather (fun before operation => operation.sentTo? covered number before) history
  -- What is refused sends nothing, and only a block that cannot begin makes the forwarder forget.
  refused : ∀ operation, session.fault? operation ≠ none → (session.perform operation).1 = none ∧
    (session.perform operation).2.forwarder.sent = session.forwarder.sent ∧
    (session.perform operation).2.forwarder.received =
      if operation = .enter true then none else session.forwarder.received

variable {covered : List Int} {initial : Int → Handler} {history : List Operation} {session : Session}

theorem caught_is_raise (operation : Operation) (signal : Int) :
    operation.caught? covered history = some signal ↔
      operation = .raise signal ∧ signal ∈ covered ∧ IsOpen history := by
  cases operation with
  | raise other =>
      by_cases due : other ∈ covered ∧ IsOpen history
      · rw [Operation.caught?, if_pos due, Operation.raise.injEq, Option.some.injEq]
        constructor
        · rintro rfl
          exact ⟨rfl, due⟩
        · exact And.left
      · rw [Operation.caught?, if_neg due]
        constructor
        · intro none
          cases none
        · rintro ⟨same, also⟩
          cases same
          exact absurd also due
  | _ =>
      constructor
      · intro none
        cases none
      · rintro ⟨same, _⟩
        cases same

-- After one more operation a signal waits if it was just caught, or waited before and was neither forgotten nor replaced.
theorem pending_next (operation : Operation) (signal : Int) :
    Pending covered (history ++ [operation]) signal ↔
      operation.caught? covered history = some signal ∨
        operation.forgets history = false ∧ operation.caught? covered history = none ∧
          Pending covered history signal := by
  rw [caught_is_raise]
  constructor
  · rintro ⟨before, after, split, listed, opened, undisturbed⟩
    rcases concat_split history before after operation _ split with ⟨rfl, rfl, rfl⟩ | ⟨rest, rfl, rfl⟩
    · exact .inl ⟨rfl, listed, opened⟩
    · obtain ⟨unforgotten, uncaught⟩ := undisturbed rest operation [] rfl
      refine .inr ⟨unforgotten, uncaught, before, rest, rfl, listed, opened, ?_⟩
      rintro between other later rfl
      refine undisturbed between other (later ++ [operation]) ?_
      rw [List.append_assoc, List.cons_append]
  · rintro (⟨rfl, listed, opened⟩ | ⟨unforgotten, uncaught, before, after, rfl, listed, opened, undisturbed⟩)
    · refine ⟨history, [], rfl, listed, opened, ?_⟩
      intro between other later split
      exact absurd split.symm (List.append_ne_nil_of_right_ne_nil _ (List.cons_ne_nil _ _))
    · refine ⟨before, after ++ [operation], ?_, listed, opened, ?_⟩
      · rw [List.append_assoc, List.cons_append]
      · intro between other later split
        rcases concat_split after between later operation other split with ⟨rfl, rfl, _⟩ | ⟨rest, _, within⟩
        · exact ⟨unforgotten, uncaught⟩
        · exact undisturbed between other rest within

theorem session_pending (distinct : covered.Nodup) (foreign : ∀ signal, initial signal ≠ .forwarder)
    (history : List Operation) (unrefused : Unrefused covered history) (signal : Int) :
    ((start covered initial).performAll history).forwarder.received = some signal ↔ Pending covered history signal := by
  refine session_keeps covered distinct initial foreign
    (fun history forwarder => forwarder.received = some signal ↔ Pending covered history signal) ?_ ?_ history unrefused
  · constructor
    · intro none
      cases none
    · rintro ⟨before, after, split, _⟩
      exact absurd split.symm (List.append_ne_nil_of_right_ne_nil _ (List.cons_ne_nil _ _))
  · intro before operation forwarder after tells pending
    rw [tells.received, pending_next, ← pending]
    cases caught : operation.caught? covered before with
    | some other =>
        -- An operation that is caught is no question and begins no block.
        have unforgotten : operation.forgets before = false := by
          rw [((caught_is_raise operation other).mp caught).1]
          rfl
        simp [unforgotten]
    | none => cases operation.forgets before <;> simp

theorem gather_filter_map {α β : Type} (what : List Operation → Operation → Option α) (pick : α → Option β)
    (history : List Operation) : (gather what history).filterMap pick =
      gather (fun before operation => (what before operation).bind pick) history := by
  suffices general : ∀ before, (gatherAfter what before history).filterMap pick =
      gatherAfter (fun before operation => (what before operation).bind pick) before history from general []
  induction history with
  | nil => exact fun before => rfl
  | cons operation rest ih =>
      intro before
      rw [gatherAfter, gatherAfter, List.filterMap_append, ih]
      cases what before operation with
      | none => rfl
      | some found => cases picked : pick found <;> simp [picked]

theorem sent_on_to (operation : Operation) (number : Nat) (history : List Operation) :
    (operation.sentOn? covered history).bind (fun entry => if entry.1 = number then some entry.2 else none) =
      operation.sentTo? covered number history := by
  cases operation with
  | raise signal =>
      by_cases due : signal ∈ covered ∧ IsOpen history
      · rw [Operation.sentOn?, Operation.caught?, if_pos due, Operation.sentTo?]
        rcases attachedAfter history with _ | ⟨other, _ | _⟩ <;> simp [due]
      · have unsent : ¬ (signal ∈ covered ∧ IsOpen history ∧ attachedAfter history = some ⟨number, true⟩) :=
          fun all => due ⟨all.1, all.2.1⟩
        rw [Operation.sentOn?, Operation.caught?, if_neg due, Operation.sentTo?, if_neg unsent]
        rfl
  | _ => rfl

theorem session_sent (distinct : covered.Nodup) (foreign : ∀ signal, initial signal ≠ .forwarder)
    (history : List Operation) (unrefused : Unrefused covered history) :
    ((start covered initial).performAll history).forwarder.sent =
      gather (fun before operation => operation.sentOn? covered before) history := by
  refine session_keeps covered distinct initial foreign (fun history forwarder => forwarder.sent =
    gather (fun before operation => operation.sentOn? covered before) history) rfl ?_ history unrefused
  intro before operation forwarder after tells sent
  rw [tells.sent, sent, gather_next]

theorem check_halts {σ : Type} (state : State σ) (value step : Option Int) :
    (State.check value step state).2 =
      state.forwarder.received.map fun signal => .error (.interrupted signal value step) := by
  rw [State.check, Forwarder.check]
  cases state.forwarder.received <;> rfl

theorem refused_noticed (reflects : Reflects covered initial history session) (operation : Operation)
    (refused : session.fault? operation ≠ none) : (session.perform operation).1 = none ∧
      (session.perform operation).2.forwarder.sent = session.forwarder.sent ∧
      (session.perform operation).2.forwarder.received =
        if operation = .enter true then none else session.forwarder.received := by
  obtain ⟨fault, refused⟩ := Option.ne_none_iff_exists'.mp refused
  have untold : (session.perform operation).1 = none := by
    cases operation with
    | enter onMainThread => rw [perform, refused]
    | leave =>
        rw [perform]
        cases session.blocks <;> rfl
    | raise signal => rfl
    | _ => cases refused
  have refusal := perform_refused reflects operation fault refused
  refine ⟨untold, ?_⟩
  generalize (session.perform operation).2 = after at refusal
  cases refusal with
  | block early late signal fault _ _ _ => exact ⟨rfl, rfl⟩
  | leave none => exact ⟨rfl, rfl⟩
  | raise signal fault _ => exact ⟨rfl, rfl⟩

end Session

theorem notices_follow_history (covered : List Int) (distinct : covered.Nodup) (initial : Int → Handler)
    (foreign : ∀ signal, initial signal ≠ .forwarder) (history : List Operation) (unrefused : Unrefused covered history) :
    Session.Notices covered history ((Session.start covered initial).performAll history) := by
  have reflects := Session.session_reflects covered distinct initial history unrefused
  have tells := Session.perform_tells distinct foreign reflects
  refine ⟨Session.session_pending distinct foreign history unrefused, ?_, rfl, ?_, ?_, ?_,
    Session.refused_noticed reflects⟩
  · intro σ state value step same
    rw [Session.check_halts, same]
    rfl
  · intro onMainThread nested
    have unrefusedNext : Unrefused covered (history ++ [.enter onMainThread]) := by
      intro entered
      rcases List.mem_append.mp entered with before | now
      · exact unrefused before
      · obtain rfl := Operation.enter.inj (List.mem_singleton.mp now)
        exact unrefused (open_entered history (nested rfl))
    refine (tells (.enter onMainThread) unrefusedNext).received.trans ?_
    cases onMainThread with
    | false => rfl
    | true => simp [Operation.forgets, nested rfl, Operation.caught?, Session.perform, Forwarder.check]
  · refine (tells .leave fun entered => unrefused ?_).received
    exact (List.mem_append.mp entered).resolve_right (by simp)
  · intro number
    rw [Forwarder.sentTo, Session.session_sent distinct foreign history unrefused, Session.gather_filter_map]
    simp only [Session.sent_on_to]

theorem notices_follow_history_once :
    ([2, 15] : List Int).Nodup ∧ (∀ signal : Int, (fun _ => Handler.ignored) signal ≠ .forwarder) ∧
      Unrefused [2, 15] [.enter true, .raise 2, .check, .attach true, .raise 15, .enter true, .raise 10, .leave, .detach,
        .leave] ∧
      (((Session.start [2, 15] fun _ => .ignored).performAll [.enter true, .raise 2, .check, .attach true, .raise 15,
        .enter true, .raise 10, .leave, .detach, .leave]).perform .check).1 = some 15 ∧
      ((Session.start [2, 15] fun _ => .ignored).performAll [.enter true, .raise 2, .check, .attach true, .raise 15,
        .enter true, .raise 10, .leave, .detach, .leave]).forwarder.sentTo 0 = [15] ∧
      Session.Notices [2, 15] [.enter true, .raise 2, .check, .attach true, .raise 15, .enter true, .raise 10, .leave,
          .detach, .leave]
        ((Session.start [2, 15] fun _ => .ignored).performAll [.enter true, .raise 2, .check, .attach true, .raise 15,
          .enter true, .raise 10, .leave, .detach, .leave]) := by
  have distinct : ([2, 15] : List Int).Nodup := by decide
  have foreign : ∀ signal : Int, (fun _ => Handler.ignored) signal ≠ .forwarder := fun _ => Handler.noConfusion
  have unrefused : Unrefused [2, 15] [.enter true, .raise 2, .check, .attach true, .raise 15, .enter true, .raise 10,
      .leave, .detach, .leave] := fun _ => by decide +kernel
  exact ⟨distinct, foreign, unrefused, by decide +kernel, by decide +kernel,
    notices_follow_history [2, 15] distinct _ foreign _ unrefused⟩

end ConstantSweep.Signal

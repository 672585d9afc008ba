import ConstantSweep.Proofs.Quiescence

set_option autoImplicit false

namespace ConstantSweep.Sweep

-- The patch that should have put the first line back was not made.
def RestoreStopped {σ : Type} (calls : List (Call σ)) (stop : PatchStop) : Prop :=
  ∃ done, Call.patch done ∈ calls ∧ done.call.value = none ∧ done.answer = .error stop

-- How a run goes on when its sweep is over, whether it ended by itself or was halted.
structure Closes {σ : Type} (request : Request) (swept : State σ) (halt : Option Halt) (calls : List (Call σ))
    (ending : Ending) : Prop where
  asked : (∃ call ∈ calls, call.isRestore = true) ↔
    request.restore = true ∧ ∃ call ∈ calls, call.previous?.isSome = true
  last : ∀ before restoring after, calls = before ++ restoring :: after → restoring.isRestore = true →
    after = [] ∧ (∀ call ∈ before, call.isRestore = false) ∧
      ∃ line done, firstPrevious before = some line ∧ restoring = .patch done ∧
        done.call = request.patchCall none line
  -- An exception of the sweep is that of the run, whether or not the line could be put back.
  raised : ∀ cause, halt = some cause → (∀ fault, ¬ RestoreStopped calls (.fault fault)) →
    ending = .ofHalt swept.outcome (some cause)
  refused : halt = none → ∀ error, (∃ outcome, ending = .failed error outcome) ↔
    ∃ failure, RestoreStopped calls (.failure failure) ∧ error = ⟨.patch failure, none, none⟩
  returned : halt = none → (∀ stop, ¬ RestoreStopped calls stop) → ending = .completed swept.outcome
  -- A fault that a run does not account for is not outweighed by anything.
  crashed : ∀ fault, RestoreStopped calls (.fault fault) → ending = .crashed fault

section Restoring

variable {σ : Type} {bench : Bench σ} {catches : Int → Bool} {policy : Policy} {request : Request}
  {start last : Standing σ} {calls : List (Call σ)} {halt : Option Halt}

theorem sweep_restores_nothing (course : SweepCourse bench catches policy request start calls last halt) :
    ∀ call ∈ calls, call.isRestore = false :=
  fun call made => (placed_unrestored call (sweep_placed course call made)).1

theorem restoring_last (early before after : List (Call σ)) (final restoring : Call σ)
    (unrestored : ∀ call ∈ early, call.isRestore = false)
    (split : early ++ [final] = before ++ restoring :: after) (restores : restoring.isRestore = true) :
    before = early ∧ restoring = final ∧ after = [] := by
  rcases concat_split early before after final restoring split with ending | ⟨rest, _, within⟩
  · exact ending
  · have made : restoring ∈ early := within ▸ List.mem_append_right before (List.mem_cons_self ..)
    rw [unrestored restoring made] at restores
    cases restores

theorem stopped_iff (done : PatchDone σ) (valueless : done.call.value = none)
    (unrestored : ∀ call ∈ calls, call.isRestore = false) (stop : PatchStop) :
    RestoreStopped (calls ++ [.patch done]) stop ↔ done.answer = .error stop := by
  constructor
  · rintro ⟨other, made, none, answer⟩
    rcases List.mem_append.mp made with early | here
    · have restores : Call.isRestore (.patch other) = true := congrArg Option.isNone none
      rw [unrestored _ early] at restores
      cases restores
    · cases List.mem_singleton.mp here
      exact answer
  · intro answer
    exact ⟨done, List.mem_append_right _ (List.mem_singleton_self _), valueless, answer⟩

theorem unrestored_not_stopped (unrestored : ∀ call ∈ calls, call.isRestore = false) (stop : PatchStop) :
    ¬ RestoreStopped calls stop := by
  rintro ⟨done, made, valueless, _⟩
  have restores : Call.isRestore (.patch done) = true := congrArg Option.isNone valueless
  rw [unrestored _ made] at restores
  cases restores

theorem kept_closes (swept : State σ) (course : SweepCourse bench catches policy request start calls last halt)
    (unrestored : request.restore = true → firstPrevious calls = none) :
    Closes request swept halt calls (.ofHalt swept.outcome halt) := by
  have never := sweep_restores_nothing course
  have unstopped := unrestored_not_stopped never
  refine ⟨⟨?_, ?_⟩, ?_, ?_, ?_, ?_, fun fault stopped => absurd stopped (unstopped _)⟩
  · rintro ⟨call, made, restores⟩
    rw [never call made] at restores
    cases restores
  · rintro ⟨restore, call, made, found⟩
    have nothing := List.findSome?_eq_none_iff.mp (unrestored restore) call made
    rw [nothing] at found
    cases found
  · intro before restoring after split restores
    rw [never restoring (split ▸ List.mem_append_right before (List.mem_cons_self ..))] at restores
    cases restores
  · rintro cause rfl _
    rfl
  · rintro rfl error
    constructor
    · rintro ⟨outcome, ended⟩
      cases ended
    · rintro ⟨failure, stopped, _⟩
      exact absurd stopped (unstopped _)
  · rintro rfl _
    rfl

-- What the patch that puts the line back makes of the ending, by how it was answered and how the sweep ended.
theorem restored_closes (swept : State σ) (line : Text) (done : PatchDone σ)
    (course : SweepCourse bench catches policy request start calls last halt) (restore : request.restore = true)
    (found : firstPrevious calls = some line) (asked : done.call = request.patchCall none line) :
    Closes request swept halt (calls ++ [.patch done]) ((Ending.ofHalt swept.outcome halt).restored done.answer) := by
  have never := sweep_restores_nothing course
  have valueless : done.call.value = none := congrArg PatchCall.value asked
  have restores : Call.isRestore (.patch done) = true := congrArg Option.isNone valueless
  have stopped := stopped_iff done valueless never
  refine ⟨⟨?_, ?_⟩, ?_, ?_, ?_, ?_, ?_⟩
  · intro _
    obtain ⟨call, made, previous⟩ := List.exists_of_findSome?_eq_some found
    exact ⟨restore, call, List.mem_append_left _ made, Option.isSome_of_eq_some previous⟩
  · intro _
    exact ⟨_, List.mem_append_right _ (List.mem_singleton_self _), restores⟩
  · intro before restoring after split here
    obtain ⟨rfl, rfl, rfl⟩ := restoring_last calls before after (.patch done) restoring never split here
    exact ⟨rfl, never, line, done, found, rfl, asked⟩
  · rintro cause rfl unfaulted
    rcases answer : done.answer with (failure | fault) | previous
    · cases cause <;> rfl
    · exact absurd ((stopped _).mpr answer) (unfaulted fault)
    · rfl
  · rintro rfl error
    simp only [stopped]
    rcases done.answer with (failure | fault) | previous
    · constructor
      · rintro ⟨outcome, ended⟩
        cases ended
        exact ⟨failure, rfl, rfl⟩
      · rintro ⟨other, same, rfl⟩
        cases same
        exact ⟨.empty, rfl⟩
    · constructor
      · rintro ⟨outcome, ended⟩
        cases ended
      · rintro ⟨other, same, _⟩
        cases same
    · constructor
      · rintro ⟨outcome, ended⟩
        cases ended
      · rintro ⟨other, same, _⟩
        cases same
  · rintro rfl unstopped
    rcases answer : done.answer with stop | previous
    · exact absurd ((stopped _).mpr answer) (unstopped stop)
    · rfl
  · intro fault faulted
    rw [(stopped _).mp faulted]
    rfl

end Restoring

end ConstantSweep.Sweep

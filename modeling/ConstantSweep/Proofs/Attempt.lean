import Mathlib.Data.List.Forall2

set_option autoImplicit false

namespace ConstantSweep

theorem to_option_ok {ε α : Type} {given : Except ε α} {value : α} (known : given.toOption = some value) :
    given = .ok value := by
  cases given with
  | error fault => cases known
  | ok other => exact congrArg Except.ok (Option.some.inj known)

theorem is_ok_value {ε α : Type} {given : Except ε α} (known : given.isOk = true) : ∃ value, given = .ok value := by
  cases given with
  | error fault => cases known
  | ok value => exact ⟨value, rfl⟩

theorem bind_ok {ε α β : Type} {first : Except ε α} {next : α → Except ε β} {last : β}
    (made : (first >>= next) = .ok last) : ∃ middle, first = .ok middle ∧ next middle = .ok last := by
  cases first with
  | error fault => cases made
  | ok middle => exact ⟨middle, rfl, made⟩

theorem bind_error_iff {ε α β : Type} (first : Except ε α) (next : α → Except ε β) (fault : ε) :
    (first >>= next) = .error fault ↔ first = .error fault ∨ ∃ middle, first = .ok middle ∧ next middle = .error fault := by
  cases first with
  | error other =>
      change Except.error other = _ ↔ _
      simp
  | ok middle =>
      change next middle = _ ↔ _
      simp

theorem map_ok {ε α β : Type} {change : α → β} {given : Except ε α} {last : β} (made : given.map change = .ok last) :
    ∃ first, given = .ok first ∧ change first = last := by
  cases given with
  | error fault => cases made
  | ok first => exact ⟨first, rfl, Except.ok.inj made⟩

theorem map_m_iff {ε α β : Type} (make : α → Except ε β) (items : List α) (made : List β) :
    items.mapM make = .ok made ↔ List.Forall₂ (fun item one => make item = .ok one) items made := by
  constructor
  · intro all
    induction items generalizing made with
    | nil =>
        cases all
        exact .nil
    | cons item rest ih =>
        rw [List.mapM_cons] at all
        obtain ⟨first, firstMade, all⟩ := bind_ok all
        obtain ⟨more, restMade, all⟩ := bind_ok all
        cases all
        exact .cons firstMade (ih more restMade)
  · intro each
    induction each with
    | nil => rfl
    | cons single _ ih =>
        rw [List.mapM_cons, single, ih]
        rfl

theorem map_m_related {ε α β : Type} (make : α → Except ε β) (Right : α → β → Prop) (items : List α)
    (each : ∀ item ∈ items, ∃ one, make item = .ok one ∧ Right item one) :
    ∃ made, items.mapM make = .ok made ∧ List.Forall₂ Right items made := by
  induction items with
  | nil => exact ⟨[], rfl, .nil⟩
  | cons item items ih =>
      obtain ⟨one, single, right⟩ := each item (List.mem_cons_self ..)
      obtain ⟨made, all, rights⟩ := ih fun other member => each other (List.mem_cons_of_mem _ member)
      refine ⟨one :: made, ?_, .cons right rights⟩
      rw [List.mapM_cons, single, all]
      rfl

theorem map_m_total {ε α β : Type} (make : α → Except ε β) (items : List α)
    (each : ∀ item ∈ items, ∃ one, make item = .ok one) :
    ∃ made, items.mapM make = .ok made ∧ made.length = items.length := by
  obtain ⟨made, all, related⟩ := map_m_related make (fun item one => make item = .ok one) items fun item member =>
    (each item member).imp fun _ single => ⟨single, single⟩
  exact ⟨made, all, related.length_eq.symm⟩

theorem related_left {α β : Type} {Right : α → β → Prop} {items : List α} {made : List β}
    (each : List.Forall₂ Right items made) : ∀ item ∈ items, ∃ one, Right item one := by
  induction each with
  | nil => exact fun _ member => absurd member List.not_mem_nil
  | cons right _ ih => exact List.forall_mem_cons.mpr ⟨⟨_, right⟩, ih⟩

theorem related_congr {α β : Type} (Left Right : α → β → Prop) (items : List α) (made : List β)
    (same : ∀ item ∈ items, ∀ one, Left item one ↔ Right item one) :
    List.Forall₂ Left items made ↔ List.Forall₂ Right items made := by
  induction items generalizing made with
  | nil => simp
  | cons item items ih =>
      obtain ⟨here, others⟩ := List.forall_mem_cons.mp same
      cases made with
      | nil => simp
      | cons one made => rw [List.forall₂_cons, List.forall₂_cons, here, ih made others]

theorem map_m_at {ε α β : Type} (make : α → Except ε β) (items : List α) (made : List β)
    (all : items.mapM make = .ok made) (position : Nat) (one : β) (here : made[position]? = some one) :
    ∃ item, items[position]? = some item ∧ make item = .ok one := by
  induction items generalizing made position with
  | nil =>
      cases all
      cases here
  | cons item rest ih =>
      rw [List.mapM_cons] at all
      obtain ⟨first, firstMade, all⟩ := bind_ok all
      obtain ⟨more, restMade, all⟩ := bind_ok all
      cases all
      cases position with
      | zero =>
          cases here
          exact ⟨item, rfl, firstMade⟩
      | succ position => exact ih more restMade position here

theorem map_m_error_iff {ε α β : Type} (make : α → Except ε β) (items : List α) (fault : ε) :
    items.mapM make = .error fault ↔ ∃ early item late, items = early ++ item :: late ∧
      (∀ other ∈ early, ∃ one, make other = .ok one) ∧ make item = .error fault := by
  constructor
  · intro failed
    induction items with
    | nil => cases failed
    | cons item rest ih =>
        rw [List.mapM_cons] at failed
        cases first : make item with
        | error other =>
            rw [first] at failed
            cases failed
            exact ⟨[], item, rest, rfl, List.forall_mem_nil _, first⟩
        | ok one =>
            rw [first] at failed
            cases more : rest.mapM make with
            | ok made =>
                rw [more] at failed
                cases failed
            | error other =>
                rw [more] at failed
                cases failed
                obtain ⟨early, bad, late, rfl, good, refused⟩ := ih more
                exact ⟨item :: early, bad, late, rfl, List.forall_mem_cons.mpr ⟨⟨one, first⟩, good⟩, refused⟩
  · rintro ⟨early, item, late, rfl, good, refused⟩
    induction early with
    | nil =>
        rw [List.nil_append, List.mapM_cons, refused]
        rfl
    | cons first early ih =>
        obtain ⟨⟨one, made⟩, others⟩ := List.forall_mem_cons.mp good
        rw [List.cons_append, List.mapM_cons, made, ih others]
        rfl

theorem map_m_each {ε α β : Type} (make : α → Except ε β) (items : List α) (made : List β)
    (all : items.mapM make = .ok made) (Right : β → Prop) (each : ∀ item one, make item = .ok one → Right one) :
    ∀ one ∈ made, Right one := by
  intro one member
  obtain ⟨item, single⟩ := related_left ((map_m_iff make items made).mp all).flip one member
  exact each item one single

theorem map_m_nonempty {ε α β : Type} (make : α → Except ε β) (items : List α) (made : List β)
    (all : items.mapM make = .ok made) (given : items ≠ []) : made ≠ [] := by
  have same := ((map_m_iff make items made).mp all).length_eq
  rintro rfl
  exact given (List.eq_nil_of_length_eq_zero same)

end ConstantSweep

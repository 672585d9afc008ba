import ConstantSweep.Env

set_option autoImplicit false

namespace ConstantSweep.Env

open ConstantSweep.Text

section FirstOccurrences

variable {α : Type} [BEq α] [LawfulBEq α]

theorem erase_dups_distinct (items : List α) (distinct : items.Nodup) : items.eraseDups = items := by
  induction items with
  | nil => rfl
  | cons first rest ih =>
      obtain ⟨fresh, others⟩ := List.nodup_cons.mp distinct
      have kept : rest.filter (fun item => !item == first) = rest := by
        refine List.filter_eq_self.mpr fun item member => ?_
        rw [Bool.not_eq_true', beq_eq_false_iff_ne]
        rintro rfl
        exact fresh member
      rw [List.eraseDups_cons, kept, ih others]

theorem nodup_erase_dups (items : List α) : items.eraseDups.Nodup := by
  match items with
  | [] => exact List.nodup_nil
  | first :: rest =>
      rw [List.eraseDups_cons]
      refine List.nodup_cons.mpr ⟨fun member => ?_, nodup_erase_dups (rest.filter fun item => !item == first)⟩
      have kept := (List.mem_filter.mp (List.mem_eraseDups.mp member)).2
      rw [beq_self_eq_true] at kept
      cases kept
termination_by items.length
decreasing_by exact Nat.lt_succ_of_le (List.length_filter_le _ rest)

theorem erase_dups_filter (keep : α → Bool) (items : List α) :
    (items.filter keep).eraseDups = items.eraseDups.filter keep := by
  match items with
  | [] => rfl
  | first :: rest =>
      have later := erase_dups_filter keep (rest.filter fun item => !item == first)
      rw [List.eraseDups_cons, List.filter_cons, List.filter_cons, ← later]
      cases kept : keep first with
      | true =>
          rw [if_pos rfl, if_pos rfl, List.eraseDups_cons, List.filter_filter, List.filter_filter]
          simp only [Bool.and_comm]
      | false =>
          -- What is left out of the filtered list is left out of the rest as well.
          have same : (rest.filter fun item => !item == first).filter keep = rest.filter keep := by
            rw [List.filter_filter]
            refine List.filter_congr fun item _ => ?_
            by_cases here : item = first
            · rw [here, kept, Bool.false_and]
            · rw [beq_eq_false_iff_ne.mpr here, Bool.not_false, Bool.and_true]
          rw [if_neg Bool.false_ne_true, if_neg Bool.false_ne_true, same]
termination_by items.length
decreasing_by exact Nat.lt_succ_of_le (List.length_filter_le _ rest)

theorem erase_dups_append_right (first second : List α) :
    (first ++ second.eraseDups).eraseDups = (first ++ second).eraseDups := by
  rw [List.eraseDups_append, List.eraseDups_append, List.removeAll, List.removeAll, ← erase_dups_filter,
    erase_dups_distinct _ (nodup_erase_dups _)]

theorem erase_dups_append_left (first second : List α) :
    (first.eraseDups ++ second).eraseDups = (first ++ second).eraseDups := by
  have same : second.removeAll first.eraseDups = second.removeAll first := by
    refine List.filter_congr fun item _ => ?_
    have listed : first.eraseDups.elem item = first.elem item := by
      rw [Bool.eq_iff_iff, List.elem_iff, List.elem_iff, List.mem_eraseDups]
    rw [listed]
  rw [List.eraseDups_append, List.eraseDups_append, same, erase_dups_distinct _ (nodup_erase_dups _)]

end FirstOccurrences

def names (env : Env) : List Text := env.map Prod.fst

def Distinct (env : Env) : Prop := env.names.Nodup

theorem get_append (first second : Env) (name : Text) :
    get? (first ++ second) name = (first.get? name).or (second.get? name) := by
  induction first with
  | nil => rfl
  | cons entry rest ih =>
      rw [List.cons_append, get?, get?]
      split
      · rfl
      · exact ih

theorem get_none_iff (env : Env) (name : Text) : env.get? name = none ↔ name ∉ env.names := by
  induction env with
  | nil => simp [get?, names]
  | cons entry rest ih =>
      obtain ⟨other, value⟩ := entry
      by_cases same : other = name
      · simp [get?, names, same]
      · simpa [get?, names, same, Ne.symm same] using ih

theorem get_member (env : Env) (name text : Text) (found : env.get? name = some text) : (name, text) ∈ env := by
  induction env with
  | nil => cases found
  | cons entry rest ih =>
      rw [get?] at found
      split at found
      · rename_i same
        rw [← Option.some.inj found, ← beq_iff_eq.mp same]
        exact List.mem_cons_self
      · exact List.mem_cons_of_mem _ (ih found)

theorem get_listed (env : Env) (name text : Text) (distinct : env.Distinct) (listed : (name, text) ∈ env) :
    env.get? name = some text := by
  induction env with
  | nil => cases listed
  | cons entry rest ih =>
      obtain ⟨fresh, others⟩ := List.nodup_cons.mp distinct
      rcases List.mem_cons.mp listed with rfl | later
      · rw [get?, if_pos (beq_self_eq_true name)]
      · have apart : entry.1 ≠ name := by
          rintro rfl
          exact fresh (List.mem_map.mpr ⟨_, later, rfl⟩)
        rw [get?, if_neg fun same => apart (beq_iff_eq.mp same)]
        exact ih others later

theorem get_reverse (env : Env) (distinct : env.Distinct) (name : Text) : get? env.reverse name = env.get? name := by
  induction env with
  | nil => rfl
  | cons entry rest ih =>
      obtain ⟨fresh, others⟩ := List.nodup_cons.mp distinct
      rw [List.reverse_cons, get_append, ih others]
      by_cases same : entry.1 = name
      · subst same
        rw [(get_none_iff rest entry.1).mpr fresh, Option.none_or]
        simp only [get?, beq_self_eq_true, if_true]
      · have other := beq_eq_false_iff_ne.mpr same
        simp only [get?, other, Bool.false_eq_true, if_false, Option.or_none]

theorem get_set (env : Env) (name value other : Text) :
    (env.set name value).get? other = (get? [(name, value)] other).or (env.get? other) := by
  by_cases same : name = other
  · subst same
    rw [get_set_same, get?, if_pos (beq_self_eq_true _), Option.some_or]
  · rw [get_set_other env name other value (Ne.symm same), get?, if_neg (by simpa using same), get?, Option.none_or]

theorem get_update (env changes : Env) (name : Text) :
    (env.update changes).get? name = (get? changes.reverse name).or (env.get? name) := by
  induction changes generalizing env with
  | nil => rfl
  | cons change rest ih =>
      obtain ⟨changed, value⟩ := change
      have step : env.update ((changed, value) :: rest) = (env.set changed value).update rest := rfl
      rw [step, ih, get_set, List.reverse_cons, get_append, Option.or_assoc]

theorem names_set (env : Env) (name value : Text) :
    (env.set name value).names = if name ∈ env.names then env.names else env.names ++ [name] := by
  induction env with
  | nil => rfl
  | cons entry rest ih =>
      obtain ⟨other, old⟩ := entry
      by_cases same : other = name
      · simp [set, names, same]
      · have later : Env.set ((other, old) :: rest) name value = (other, old) :: Env.set rest name value := by
          rw [Env.set, if_neg (by simpa using same)]
        have here : name ∈ names ((other, old) :: rest) ↔ name ∈ names rest := by
          simp [names, Ne.symm same]
        rw [later]
        simp only [here]
        rw [names, List.map_cons, ← names, ih]
        split <;> rfl

theorem distinct_set (env : Env) (name value : Text) (distinct : env.Distinct) : (env.set name value).Distinct := by
  rw [Distinct, names_set]
  split
  · exact distinct
  · rename_i fresh
    refine List.nodup_append.mpr ⟨distinct, List.nodup_cons.mpr ⟨List.not_mem_nil, List.nodup_nil⟩, ?_⟩
    rintro old member new added rfl
    rw [List.mem_singleton] at added
    subst added
    exact fresh member

theorem distinct_update (env changes : Env) (distinct : env.Distinct) : (env.update changes).Distinct := by
  induction changes generalizing env with
  | nil => exact distinct
  | cons change rest ih => exact ih (env.set change.1 change.2) (distinct_set env change.1 change.2 distinct)

theorem of_entries_distinct (entries : List (Text × Text)) : (ofEntries entries).Distinct :=
  distinct_update [] entries List.nodup_nil

theorem names_update (env changes : Env) (distinct : env.Distinct) :
    (env.update changes).names = (env.names ++ changes.names).eraseDups := by
  induction changes generalizing env with
  | nil =>
      have same : names [] = [] := rfl
      rw [same, List.append_nil, erase_dups_distinct env.names distinct]
      rfl
  | cons change rest ih =>
      have step : env.update (change :: rest) = (env.set change.1 change.2).update rest := rfl
      have split : names (change :: rest) = change.1 :: names rest := rfl
      rw [step, ih _ (distinct_set env change.1 change.2 distinct), names_set, split]
      split
      · rename_i known
        have left : (change.1 :: names rest).removeAll env.names = (names rest).removeAll env.names := by
          rw [List.cons_removeAll, if_neg (by simpa using known)]
        rw [List.eraseDups_append, List.eraseDups_append, left]
      · rw [List.append_assoc, List.singleton_append]

theorem set_fresh (env : Env) (name value : Text) (fresh : name ∉ env.names) : env.set name value = env ++ [(name, value)] := by
  induction env with
  | nil => rfl
  | cons entry rest ih =>
      obtain ⟨other, old⟩ := entry
      have apart : name ≠ other ∧ name ∉ names rest := by simpa [names] using fresh
      rw [set, if_neg (by simpa using apart.1.symm), ih apart.2, List.cons_append]

theorem update_fresh (env changes : Env) (distinct : Distinct (env ++ changes)) : env.update changes = env ++ changes := by
  induction changes generalizing env with
  | nil => exact (List.append_nil env).symm
  | cons change rest ih =>
      obtain ⟨name, value⟩ := change
      have step : env.update ((name, value) :: rest) = (env.set name value).update rest := rfl
      have fresh : name ∉ env.names := by
        intro member
        have nodup : (env.names ++ name :: names rest).Nodup := by
          have parts : names (env ++ (name, value) :: rest) = env.names ++ name :: names rest := List.map_append
          rw [← parts]
          exact distinct
        exact (List.nodup_append.mp nodup).2.2 name member name List.mem_cons_self rfl
      have joined : env ++ (name, value) :: rest = (env ++ [(name, value)]) ++ rest := by simp
      rw [joined] at distinct ⊢
      rw [step, set_fresh env name value fresh, ih _ distinct]

theorem names_of_entries (entries : List (Text × Text)) : (ofEntries entries).names = (names entries).eraseDups :=
  names_update [] entries List.nodup_nil

end ConstantSweep.Env

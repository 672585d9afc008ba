import ConstantSweep.Path

set_option autoImplicit false

namespace ConstantSweep.Path

structure Normal (path : Path) : Prop where
  root : path.root ≤ 2
  parts : ∀ part ∈ path.parts, isPart part.toList = true ∧ .char '/' ∉ part.toList

theorem split_cons (letter : Letter) (rest : List Letter) :
    (letter :: rest).splitOn (.char '/') =
      if letter = .char '/' then [] :: rest.splitOn (.char '/')
      else (rest.splitOn (.char '/')).modifyHead (letter :: ·) := by
  have parted : (letter :: rest).splitOn (.char '/') = _ := List.splitOnP_cons_eq_if_modifyHead letter rest
  rw [parted]
  by_cases slash : letter = .char '/'
  · rw [if_pos slash, if_pos (by simpa using slash)]
    rfl
  · rw [if_neg slash, if_neg (by simpa using slash)]
    rfl

theorem pieces_split (letters : List Letter) : pieces letters = letters.splitOn (.char '/') := by
  induction letters with
  | nil => rfl
  | cons letter rest ih =>
      rw [split_cons]
      by_cases slash : letter = .char '/'
      · rw [if_pos slash, slash, pieces, ih]
      · obtain ⟨piece, more, split⟩ := List.exists_cons_of_ne_nil (List.splitOn_ne_nil (.char '/') rest)
        rw [if_neg slash, pieces, ih, split]
        · rfl
        · exact slash

theorem split_slashless (letters piece : List Letter) (member : piece ∈ letters.splitOn (.char '/')) :
    .char '/' ∉ piece := by
  induction letters generalizing piece with
  | nil =>
      cases List.mem_singleton.mp member
      exact List.not_mem_nil
  | cons letter rest ih =>
      rw [split_cons] at member
      by_cases slash : letter = .char '/'
      · rw [if_pos slash] at member
        rcases List.mem_cons.mp member with rfl | member
        · exact List.not_mem_nil
        · exact ih piece member
      · obtain ⟨first, more, split⟩ := List.exists_cons_of_ne_nil (List.splitOn_ne_nil (.char '/') rest)
        rw [if_neg slash, split] at member
        rw [split] at ih
        rcases List.mem_cons.mp member with rfl | member
        · have clean := ih first List.mem_cons_self
          simp [clean, Ne.symm slash]
        · exact ih piece (List.mem_cons_of_mem first member)

theorem of_text_normal (text : Text) : (ofText text).Normal := by
  constructor
  · rw [ofText]
    dsimp only
    split
    · exact Nat.zero_le 2
    · split
      · exact Nat.le_refl 2
      · exact Nat.le_succ 1
  · intro part member
    obtain ⟨piece, kept, rfl⟩ := List.mem_map.mp member
    obtain ⟨listed, isPart⟩ := List.mem_filter.mp kept
    rw [pieces_split] at listed
    exact ⟨isPart, split_slashless text.toList piece listed⟩

theorem pieces_slashes (count : Nat) (rest : List Letter) :
    pieces (List.replicate count (.char '/') ++ rest) = List.replicate count [] ++ pieces rest := by
  induction count with
  | zero => rfl
  | succ count ih =>
      rw [List.replicate_succ, List.cons_append, pieces, ih]
      rfl

def body (parts : List Text) : List Letter := [.char '/'].intercalate (parts.map Text.toList)

theorem pieces_body (parts : List Text) (clean : ∀ part ∈ parts, isPart part.toList = true ∧ .char '/' ∉ part.toList) :
    (pieces (body parts)).filter isPart = parts.map Text.toList := by
  by_cases none : parts = []
  · subst none
    rfl
  · have slashless : ∀ piece ∈ parts.map Text.toList, .char '/' ∉ piece := by
      intro piece member
      obtain ⟨part, listed, rfl⟩ := List.mem_map.mp member
      exact (clean part listed).2
    have some : parts.map Text.toList ≠ [] := by
      intro empty
      exact none (List.map_eq_nil_iff.mp empty)
    rw [pieces_split, body, List.splitOn_intercalate _ slashless some]
    apply List.filter_eq_self.mpr
    intro piece member
    obtain ⟨part, listed, rfl⟩ := List.mem_map.mp member
    exact (clean part listed).1

theorem body_start (parts : List Text) (clean : ∀ part ∈ parts, isPart part.toList = true ∧ .char '/' ∉ part.toList) :
    (body parts).takeWhile (· == .char '/') = [] := by
  cases parts with
  | nil => rfl
  | cons part rest =>
      obtain ⟨isPart, slashless⟩ := clean part List.mem_cons_self
      obtain ⟨letters⟩ := part
      cases letters with
      | nil => cases isPart
      | cons letter letters =>
          have other : letter ≠ .char '/' := by
            rintro rfl
            exact slashless List.mem_cons_self
          have first : ∃ more, body (⟨letter :: letters⟩ :: rest) = letter :: more := by
            cases rest with
            | nil => exact ⟨letters ++ [], rfl⟩
            | cons next others =>
                rw [body, List.map_cons, List.map_cons, List.intercalate_cons_cons]
                exact ⟨_, rfl⟩
          obtain ⟨more, same⟩ := first
          rw [same]
          apply List.takeWhile_cons_of_neg
          simpa using other

theorem text_letters (path : Path) (named : ¬ (path.root = 0 ∧ path.parts = [])) :
    path.text.toList = List.replicate path.root (.char '/') ++ body path.parts := by
  have written : (path.root = 0 && path.parts.isEmpty) = false := by
    simpa using named
  rw [text, written]
  rfl

theorem of_text_text (path : Path) (normal : path.Normal) : ofText path.text = path := by
  obtain ⟨root, parts⟩ := path
  by_cases here : root = 0 ∧ parts = []
  · obtain ⟨rfl, rfl⟩ := here
    rfl
  · have letters := text_letters ⟨root, parts⟩ here
    have slashes : (List.replicate root (Letter.char '/') ++ body parts).takeWhile (· == .char '/') =
        List.replicate root (.char '/') := by
      rw [List.takeWhile_append_of_pos, body_start parts normal.parts, List.append_nil]
      intro letter member
      rw [List.eq_of_mem_replicate member]
      rfl
    have empty : (List.replicate root ([] : List Letter)).filter isPart = [] := by
      simp [isPart]
    have back : (parts.map Text.toList).map Text.ofList = parts := by
      rw [List.map_map]
      exact List.map_id parts
    have bound : root ≤ 2 := normal.root
    rw [ofText, letters]
    dsimp only
    rw [slashes, List.length_replicate, pieces_slashes, List.filter_append, empty, List.nil_append,
      pieces_body parts normal.parts, back]
    congr 1
    split
    · omega
    · split <;> omega

end ConstantSweep.Path

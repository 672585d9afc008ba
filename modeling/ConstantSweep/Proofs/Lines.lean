import ConstantSweep.Text.Lines

set_option autoImplicit false

namespace ConstantSweep.Text

def Terminated (line : List Letter) : Prop := ∃ front, line = front ++ [.char '\n'] ∧ Letter.char '\n' ∉ front

def Unterminated (line : List Letter) : Prop := line ≠ [] ∧ Letter.char '\n' ∉ line

-- The shape of a text that is cut into lines: only the last one may lack its line feed.
inductive Lined : List (List Letter) → Prop where
  | nil : Lined []
  | last (line : List Letter) : Unterminated line → Lined [line]
  | cons (line : List Letter) (rest : List (List Letter)) : Terminated line → Lined rest → Lined (line :: rest)

theorem split_lines_feed (rest : List Letter) :
    splitLines (.char '\n' :: rest) = [.char '\n'] :: splitLines rest := rfl

theorem split_lines_other (c : Letter) (rest : List Letter) (other : c ≠ .char '\n') :
    splitLines (c :: rest) = match splitLines rest with
      | [] => [[c]]
      | line :: lines => (c :: line) :: lines := by
  have kept : (c == Letter.char '\n') = false := beq_false_of_ne other
  rw [splitLines, splitAfter, kept, if_neg Bool.false_ne_true]
  cases splitAfter (· == Letter.char '\n') rest <;> rfl

theorem terminated_cons (c : Letter) (line : List Letter) (other : c ≠ .char '\n') (terminated : Terminated line) :
    Terminated (c :: line) := by
  obtain ⟨front, same, clean⟩ := terminated
  refine ⟨c :: front, congrArg (c :: ·) same, ?_⟩
  simp [clean, Ne.symm other]

theorem lined_cons (c : Letter) (line : List Letter) (lines : List (List Letter)) (other : c ≠ .char '\n')
    (lined : Lined (line :: lines)) : Lined ((c :: line) :: lines) := by
  cases lined with
  | last _ unterminated => exact .last _ ⟨by simp, by simp [unterminated.2, Ne.symm other]⟩
  | cons _ _ terminated rest => exact .cons _ _ (terminated_cons c line other terminated) rest

theorem split_lines_lined (text : List Letter) : Lined (splitLines text) := by
  induction text with
  | nil => exact .nil
  | cons c rest ih =>
      by_cases feed : c = .char '\n'
      · subst feed
        rw [split_lines_feed]
        exact .cons _ _ ⟨[], rfl, by simp⟩ ih
      · rw [split_lines_other c rest feed]
        cases cut : splitLines rest with
        | nil => exact .last _ ⟨by simp, by simp [Ne.symm feed]⟩
        | cons line lines =>
            rw [cut] at ih
            exact lined_cons c line lines feed ih

theorem split_lines_terminated (front rest : List Letter) (clean : Letter.char '\n' ∉ front) :
    splitLines (front ++ .char '\n' :: rest) = (front ++ [.char '\n']) :: splitLines rest := by
  induction front with
  | nil => rfl
  | cons c front ih =>
      have other : c ≠ .char '\n' := fun same => clean (by simp [same])
      rw [List.cons_append, split_lines_other c _ other, ih fun member => clean (List.mem_cons_of_mem _ member)]
      rfl

theorem split_lines_unterminated (line : List Letter) (unterminated : Unterminated line) :
    splitLines line = [line] := by
  obtain ⟨filled, clean⟩ := unterminated
  induction line with
  | nil => exact absurd rfl filled
  | cons c rest ih =>
      have other : c ≠ .char '\n' := fun same => clean (by simp [same])
      rw [split_lines_other c rest other]
      cases rest with
      | nil => rfl
      | cons next more => rw [ih (by simp) fun member => clean (List.mem_cons_of_mem _ member)]

theorem split_lines_flatten (lines : List (List Letter)) (lined : Lined lines) : splitLines lines.flatten = lines := by
  induction lined with
  | nil => rfl
  | last line unterminated =>
      rw [List.flatten_singleton]
      exact split_lines_unterminated line unterminated
  | cons line rest terminated _ ih =>
      obtain ⟨front, same, clean⟩ := terminated
      rw [List.flatten_cons, same, List.append_assoc, List.singleton_append,
        split_lines_terminated front rest.flatten clean, ih]

theorem lined_exchange (above below : List (List Letter)) (line fresh : List Letter)
    (lined : Lined (above ++ line :: below)) (terminated : Terminated line → Terminated fresh)
    (unterminated : Unterminated line → Unterminated fresh) : Lined (above ++ fresh :: below) := by
  induction above with
  | nil =>
      cases lined with
      | last _ bare => exact .last _ (unterminated bare)
      | cons _ _ ended rest => exact .cons _ _ (terminated ended) rest
  | cons first above ih =>
      cases tail : above ++ line :: below with
      | nil => simp at tail
      | cons second more =>
          rw [List.cons_append, tail] at lined
          cases lined with
          | cons _ _ ended rest => exact .cons _ _ ended (ih (tail ▸ rest))

theorem of_letters_cons (c : Letter) (rest : List Letter) (pair : rest = [.char '\n'] → c ≠ .char '\r')
    (single : rest = [] → c ≠ .char '\n') :
    Line.ofLetters (c :: rest) = ⟨c :: (Line.ofLetters rest).body, (Line.ofLetters rest).ending⟩ := by
  rw [Line.ofLetters]
  · intro returned feed
    exact pair feed returned
  · intro feed empty
    exact single empty feed

theorem of_letters_return (body : List Letter) :
    Line.ofLetters (body ++ [.char '\r', .char '\n']) = ⟨body, [.char '\r', .char '\n']⟩ := by
  induction body with
  | nil => rfl
  | cons c rest ih =>
      rw [List.cons_append, of_letters_cons c _ (by simp [List.append_eq_cons_iff]) (by simp), ih]

theorem of_letters_feed (body : List Letter) (kept : body.getLast? ≠ some (.char '\r')) :
    Line.ofLetters (body ++ [.char '\n']) = ⟨body, [.char '\n']⟩ := by
  induction body with
  | nil => rfl
  | cons c rest ih =>
      have single : rest ++ [Letter.char '\n'] = [.char '\n'] → c ≠ .char '\r' := by
        intro short same
        have empty : rest = [] := by simpa using short
        exact kept (by simp [empty, same])
      have keptRest : rest.getLast? ≠ some (.char '\r') := by
        intro last
        cases rest with
        | nil => cases last
        | cons next more => exact kept (by rw [List.getLast?_cons_cons, last])
      rw [List.cons_append, of_letters_cons c _ single (by simp), ih keptRest]

theorem of_letters_bare (body : List Letter) (clean : Letter.char '\n' ∉ body) : Line.ofLetters body = ⟨body, []⟩ := by
  induction body with
  | nil => rfl
  | cons c rest ih =>
      have cleanRest : Letter.char '\n' ∉ rest := fun member => clean (List.mem_cons_of_mem _ member)
      rw [of_letters_cons c rest (fun feed => absurd (feed ▸ List.mem_singleton_self _) cleanRest)
        (fun _ same => clean (by simp [same])), ih cleanRest]

-- A line with its body and its ending. A line feed alone is the ending only where no carriage return stands
-- before it.
inductive Parted : List Letter → Line → Prop where
  | bare (body : List Letter) : Unterminated body → Parted body ⟨body, []⟩
  | feed (body : List Letter) : Letter.char '\n' ∉ body → body.getLast? ≠ some (.char '\r') →
      Parted (body ++ [.char '\n']) ⟨body, [.char '\n']⟩
  | returned (body : List Letter) : Letter.char '\n' ∉ body →
      Parted (body ++ [.char '\r', .char '\n']) ⟨body, [.char '\r', .char '\n']⟩

theorem parted_unique (letters : List Letter) (line : Line) (parted : Parted letters line) :
    Line.ofLetters letters = line := by
  cases parted with
  | bare _ unterminated => exact of_letters_bare letters unterminated.2
  | feed body _ kept => exact of_letters_feed body kept
  | returned body _ => exact of_letters_return body

theorem unterminated_parted (letters : List Letter) (unterminated : Unterminated letters) :
    Parted letters (Line.ofLetters letters) := by
  rw [of_letters_bare letters unterminated.2]
  exact .bare letters unterminated

theorem terminated_parted (letters : List Letter) (terminated : Terminated letters) :
    Parted letters (Line.ofLetters letters) := by
  obtain ⟨front, same, clean⟩ := terminated
  subst letters
  by_cases last : front.getLast? = some (.char '\r')
  · obtain ⟨body, same⟩ := List.getLast?_eq_some_iff.mp last
    subst front
    rw [List.append_assoc, List.singleton_append, of_letters_return]
    exact .returned body fun member => clean (List.mem_append_left _ member)
  · rw [of_letters_feed front last]
    exact .feed front clean last

theorem lined_parted (lines : List (List Letter)) (lined : Lined lines) :
    ∀ letters ∈ lines, Parted letters (Line.ofLetters letters) := by
  induction lined with
  | nil => exact fun letters member => absurd member List.not_mem_nil
  | last line unterminated =>
      intro letters member
      rw [List.mem_singleton.mp member]
      exact unterminated_parted line unterminated
  | cons line rest terminated _ ih =>
      intro letters member
      rcases List.mem_cons.mp member with same | later
      · rw [same]
        exact terminated_parted line terminated
      · exact ih letters later

-- What may be put in the place of a body: it neither ends the line nor changes how its ending is read.
structure IsBody (letters : List Letter) : Prop where
  filled : letters ≠ []
  clean : Letter.char '\n' ∉ letters
  kept : letters.getLast? ≠ some (.char '\r')

theorem parted_exchange (letters body : List Letter) (line : Line) (parted : Parted letters line)
    (isBody : IsBody body) : Parted (body ++ line.ending) ⟨body, line.ending⟩ := by
  cases parted with
  | bare _ _ =>
      rw [List.append_nil]
      exact .bare body ⟨isBody.filled, isBody.clean⟩
  | feed _ _ _ => exact .feed body isBody.clean isBody.kept
  | returned _ _ => exact .returned body isBody.clean

theorem exchange_terminated (letters body : List Letter) (line : Line) (parted : Parted letters line)
    (isBody : IsBody body) (terminated : Terminated letters) : Terminated (body ++ line.ending) := by
  cases parted with
  | bare _ unterminated =>
      obtain ⟨front, same, _⟩ := terminated
      exact absurd (by simp [same]) unterminated.2
  | feed _ _ _ => exact ⟨body, rfl, isBody.clean⟩
  | returned _ _ => exact ⟨body ++ [.char '\r'], by simp, by simp [isBody.clean]⟩

theorem exchange_unterminated (letters body : List Letter) (line : Line) (parted : Parted letters line)
    (isBody : IsBody body) (unterminated : Unterminated letters) : Unterminated (body ++ line.ending) := by
  cases parted with
  | bare _ _ =>
      rw [List.append_nil]
      exact ⟨isBody.filled, isBody.clean⟩
  | feed _ _ _ => exact absurd (by simp) unterminated.2
  | returned _ _ => exact absurd (by simp) unterminated.2

end ConstantSweep.Text

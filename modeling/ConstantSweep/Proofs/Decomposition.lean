import ConstantSweep.Proofs.Attempt
import ConstantSweep.Proofs.Lines
import ConstantSweep.Regex.Reader
import ConstantSweep.Regex.Search

set_option autoImplicit false

namespace ConstantSweep.Text

-- The lines make up the text: none of them is empty, and a line feed ends each but perhaps the last one, and stands
-- nowhere else.
structure IsCut (text : List Letter) (lines : List (List Letter)) : Prop where
  joined : lines.flatten = text
  filled : ∀ letters ∈ lines, letters ≠ []
  ended : ∀ letters ∈ lines.dropLast, letters.getLast? = some (.char '\n')
  whole : ∀ letters ∈ lines, Letter.char '\n' ∉ letters.dropLast

theorem terminated_iff (letters : List Letter) :
    Terminated letters ↔ letters.getLast? = some (.char '\n') ∧ Letter.char '\n' ∉ letters.dropLast := by
  constructor
  · rintro ⟨front, rfl, clean⟩
    rw [List.getLast?_concat, List.dropLast_concat]
    exact ⟨rfl, clean⟩
  · rintro ⟨last, clean⟩
    obtain ⟨front, rfl⟩ := List.getLast?_eq_some_iff.mp last
    rw [List.dropLast_concat] at clean
    exact ⟨front, rfl, clean⟩

theorem terminated_or_not (letters : List Letter) (filled : letters ≠ [])
    (whole : Letter.char '\n' ∉ letters.dropLast) : Terminated letters ∨ Unterminated letters := by
  by_cases feed : letters.getLast filled = .char '\n'
  · have last : letters.getLast? = some (.char '\n') := by rw [List.getLast?_eq_some_getLast filled, feed]
    exact .inl ((terminated_iff letters).mpr ⟨last, whole⟩)
  · refine .inr ⟨filled, ?_⟩
    rw [← List.dropLast_concat_getLast filled]
    simp [whole, Ne.symm feed]

theorem lined_is_cut (lines : List (List Letter)) (lined : Lined lines) : IsCut lines.flatten lines := by
  induction lined with
  | nil => exact ⟨rfl, by simp, by simp, by simp⟩
  | last letters unterminated =>
      obtain ⟨filled, clean⟩ := unterminated
      refine ⟨rfl, ?_, by simp, ?_⟩
      · simpa using filled
      · simpa using fun member => clean (List.dropLast_subset letters member)
  | cons letters rest terminated _ ih =>
      obtain ⟨last, clean⟩ := (terminated_iff letters).mp terminated
      have filled : letters ≠ [] := by
        rintro rfl
        cases last
      refine ⟨rfl, List.forall_mem_cons.mpr ⟨filled, ih.filled⟩, ?_, List.forall_mem_cons.mpr ⟨clean, ih.whole⟩⟩
      cases rest with
      | nil => simp
      | cons next more =>
          rw [List.dropLast_cons_cons]
          exact List.forall_mem_cons.mpr ⟨last, ih.ended⟩

theorem is_cut_lined (text : List Letter) (lines : List (List Letter)) (cut : IsCut text lines) : Lined lines := by
  induction lines generalizing text with
  | nil => exact .nil
  | cons letters rest ih =>
      obtain ⟨filled, filledRest⟩ := List.forall_mem_cons.mp cut.filled
      obtain ⟨whole, wholeRest⟩ := List.forall_mem_cons.mp cut.whole
      cases rest with
      | nil =>
          rcases terminated_or_not letters filled whole with terminated | unterminated
          · exact .cons letters [] terminated .nil
          · exact .last letters unterminated
      | cons next more =>
          have ended := cut.ended
          rw [List.dropLast_cons_cons] at ended
          obtain ⟨last, endedRest⟩ := List.forall_mem_cons.mp ended
          have terminated := (terminated_iff letters).mpr ⟨last, whole⟩
          exact .cons letters (next :: more) terminated (ih _ ⟨rfl, filledRest, endedRest, wholeRest⟩)

theorem is_cut_iff (text : List Letter) (lines : List (List Letter)) : IsCut text lines ↔ lines = splitLines text := by
  constructor
  · intro cut
    have lined := is_cut_lined text lines cut
    rw [← cut.joined, split_lines_flatten lines lined]
  · rintro rfl
    have cut := lined_is_cut (splitLines text) (split_lines_lined text)
    rw [flatten_split_lines] at cut
    exact cut

-- The body and the ending make up the line. The ending is one of three, and as long as it can be.
structure IsParted (letters : List Letter) (line : Line) : Prop where
  joined : line.body ++ line.ending = letters
  ending : line.ending = [] ∨ line.ending = [.char '\n'] ∨ line.ending = [.char '\r', .char '\n']
  clean : Letter.char '\n' ∉ line.body
  longest : line.ending = [.char '\n'] → line.body.getLast? ≠ some (.char '\r')

theorem parted_is_parted (letters : List Letter) (line : Line) (parted : Parted letters line) :
    IsParted letters line := by
  cases parted with
  | bare _ unterminated => exact ⟨by simp, .inl rfl, unterminated.2, by simp⟩
  | feed body clean kept => exact ⟨rfl, .inr (.inl rfl), clean, fun _ => kept⟩
  | returned body clean => exact ⟨rfl, .inr (.inr rfl), clean, by simp⟩

theorem is_parted_unique (letters : List Letter) (line : Line) (parted : IsParted letters line) :
    line = Line.ofLetters letters := by
  obtain ⟨body, ending⟩ := line
  obtain ⟨rfl, kind, clean, longest⟩ := parted
  dsimp only at kind clean longest ⊢
  rcases kind with rfl | rfl | rfl
  · rw [List.append_nil, of_letters_bare body clean]
  · rw [of_letters_feed body (longest rfl)]
  · rw [of_letters_return body]

theorem is_parted_iff (text letters : List Letter) (line : Line) (member : letters ∈ splitLines text) :
    IsParted letters line ↔ line = Line.ofLetters letters := by
  constructor
  · exact is_parted_unique letters line
  · rintro rfl
    exact parted_is_parted letters _ (lined_parted _ (split_lines_lined text) letters member)

theorem unended_line (text letters : List Letter) (above below : List (List Letter))
    (cut : splitLines text = above ++ letters :: below) (unended : (Line.ofLetters letters).ending = []) :
    Letter.char '\n' ∉ letters ∧ below = [] := by
  have member : letters ∈ splitLines text := by simp [cut]
  have parted := (is_parted_iff text letters _ member).mpr rfl
  have clean := parted.clean
  have joined := parted.joined
  rw [unended, List.append_nil] at joined
  rw [joined] at clean
  refine ⟨clean, ?_⟩
  cases below with
  | nil => rfl
  | cons next more =>
      have ended := ((is_cut_iff text _).mpr rfl).ended letters
      rw [cut, List.dropLast_append_of_ne_nil (List.cons_ne_nil _ _), List.dropLast_cons_cons] at ended
      exact absurd (List.mem_of_getLast? (ended (by simp))) clean

def extendFirst {α : Type} (c : α) : List (List α) → List (List α)
  | [] => [[c]]
  | piece :: more => (c :: piece) :: more

-- The list cut at every position that passes the test; its members stand at `position` and after it.
def cutAt {α : Type} (test : Nat → Bool) : Nat → List α → List (List α)
  | position, [] => if test position then [[], []] else [[]]
  | position, c :: rest =>
      let pieces := extendFirst c (cutAt test (position + 1) rest)
      if test position then [] :: pieces else pieces

def dropEmptyLast {α : Type} (pieces : List (List α)) : List (List α) :=
  match pieces.getLast? with
  | some [] => pieces.dropLast
  | _ => pieces

def isBehindFeed (text : List Letter) : Nat → Bool
  | 0 => false
  | position + 1 => text[position]? == some (.char '\n')

-- The piece behind the last line feed where it is empty. Otherwise that piece is the last line.
def emptyRest (text : List Letter) : List (List Letter) :=
  match text.getLast? with
  | none => [[]]
  | some last => if last = .char '\n' then [[]] else []

theorem empty_rest_cons (c : Letter) (rest : List Letter) (filled : rest ≠ []) :
    emptyRest (c :: rest) = emptyRest rest := by
  obtain ⟨next, more, rfl⟩ := List.exists_cons_of_ne_nil filled
  rw [emptyRest, emptyRest, List.getLast?_cons_cons]

theorem extend_first_lines (c : Letter) (rest : List Letter) :
    extendFirst c ((if c = .char '\n' then [[]] else []) ++ (splitLines rest ++ emptyRest rest)) =
      splitLines (c :: rest) ++ emptyRest (c :: rest) := by
  by_cases feed : c = .char '\n'
  · subst feed
    rw [if_pos rfl, split_lines_feed]
    cases rest with
    | nil => rfl
    | cons next more =>
        rw [empty_rest_cons _ _ (List.cons_ne_nil next more)]
        rfl
  · rw [if_neg feed, List.nil_append, split_lines_other c rest feed]
    cases rest with
    | nil => simp [splitLines, splitAfter, emptyRest, extendFirst, feed]
    | cons next more =>
        rw [empty_rest_cons _ _ (List.cons_ne_nil next more)]
        cases cut : splitLines (next :: more) with
        | nil =>
            have joined := flatten_split_lines (next :: more)
            rw [cut] at joined
            cases joined
        | cons line lines => rfl

theorem behind_feed_concat (front rest : List Letter) (c : Letter) :
    isBehindFeed (front ++ c :: rest) (front.length + 1) = decide (c = .char '\n') := by
  rw [isBehindFeed, List.getElem?_append_right (Nat.le_refl _), Nat.sub_self, List.getElem?_cons_zero]
  by_cases feed : c = .char '\n' <;> simp [feed]

-- What comes after `front` falls into its lines and the rest behind them. Where `front` ends with a line feed, there is
-- an empty piece before the first line.
theorem cut_behind_feeds (front rest : List Letter) :
    cutAt (isBehindFeed (front ++ rest)) front.length rest =
      (if isBehindFeed (front ++ rest) front.length then [[]] else []) ++ (splitLines rest ++ emptyRest rest) := by
  induction rest generalizing front with
  | nil =>
      rw [cutAt]
      split <;> rfl
  | cons c rest ih =>
      have next := ih (front ++ [c])
      rw [List.append_assoc, List.singleton_append, List.length_append, List.length_singleton,
        behind_feed_concat] at next
      simp only [decide_eq_true_eq] at next
      rw [cutAt, next, extend_first_lines]
      split <;> rfl

theorem split_lines_pieces (text : List Letter) :
    splitLines text = dropEmptyLast (cutAt (isBehindFeed text) 0 text) := by
  have pieces : cutAt (isBehindFeed text) 0 text = splitLines text ++ emptyRest text := cut_behind_feeds [] text
  have kind : emptyRest text = [[]] ∨ emptyRest text = [] := by
    unfold emptyRest
    split
    · exact .inl rfl
    · split
      · exact .inl rfl
      · exact .inr rfl
  rw [pieces]
  rcases kind with empty | none
  · rw [empty, dropEmptyLast, List.getLast?_concat, List.dropLast_concat]
  · rw [none, List.append_nil, dropEmptyLast]
    split
    · rename_i last
      exact absurd rfl (((is_cut_iff text _).mpr rfl).filled [] (List.mem_of_getLast? last))
    · rfl

end ConstantSweep.Text

namespace ConstantSweep.Regex

open ConstantSweep.Text

def Pattern.isEmptyAt (pattern : Pattern) (codes : Array Nat) (position : Nat) : Bool :=
  (pattern.root.run codes pattern.flags ⟨position, []⟩ some).map Place.position == some position

def Pattern.pieces (pattern : Pattern) (text : List Letter) : List (List Letter) :=
  cutAt (pattern.isEmptyAt (text.map Letter.code).toArray) 0 text

def lineBreak : Pattern := ⟨Flags.none, .lookbehind false 1 (.char 10)⟩

theorem line_break_read : Pattern.ofText "(?<=\\n)" = .ok lineBreak := by
  have known : (Pattern.ofText "(?<=\\n)").toOption.map (fun pattern => (pattern.flags, pattern.root)) =
      some (lineBreak.flags, lineBreak.root) := by decide +kernel
  obtain ⟨pattern, read, same⟩ := Option.map_eq_some_iff.mp known
  cases pattern
  cases same
  exact to_option_ok read

theorem literal_feed (letter : Letter) : literalHolds Flags.none 10 letter.code = decide (letter = .char '\n') := by
  by_cases feed : letter = .char '\n'
  · subst feed
    rfl
  · have other : letter.code ≠ 10 := fun same => feed (Letter.code_injective letter (.char '\n') same)
    simp [literalHolds, Flags.none, other, feed]

theorem line_break_behind_feed (text : List Letter) (position : Nat) :
    lineBreak.isEmptyAt (text.map Letter.code).toArray position = isBehindFeed text position := by
  cases position with
  | zero => rfl
  | succ position =>
      have back : ¬ position + 1 < 1 := by omega
      rw [Pattern.isEmptyAt, lineBreak, Node.run, Node.run, matchUnit, isBehindFeed]
      simp only [back, if_false, Place.move, Nat.add_sub_cancel, List.getElem?_toArray, List.getElem?_map]
      cases text[position]? with
      | none => rfl
      | some letter =>
          rw [Option.map_some, Option.any_some, literal_feed]
          by_cases feed : letter = .char '\n' <;> simp [feed]

theorem line_break_pieces (text : List Letter) : splitLines text = dropEmptyLast (lineBreak.pieces text) := by
  have test : lineBreak.isEmptyAt (text.map Letter.code).toArray = isBehindFeed text :=
    funext (line_break_behind_feed text)
  rw [Pattern.pieces, test, split_lines_pieces]

end ConstantSweep.Regex

namespace ConstantSweep.Text

theorem text_is_cut_in_one_way (text : List Letter) :
    (∀ lines, IsCut text lines ↔ lines = splitLines text) ∧
    (∀ above letters below, splitLines text = above ++ letters :: below →
      (∀ line, IsParted letters line ↔ line = Line.ofLetters letters) ∧
      ((Line.ofLetters letters).ending = [] → Letter.char '\n' ∉ letters ∧ below = [])) ∧
    ∃ breaks, Regex.Pattern.ofText "(?<=\\n)" = .ok breaks ∧ splitLines text = dropEmptyLast (breaks.pieces text) := by
  refine ⟨is_cut_iff text, ?_, Regex.lineBreak, Regex.line_break_read, Regex.line_break_pieces text⟩
  intro above letters below cut
  have member : letters ∈ splitLines text := by simp [cut]
  exact ⟨fun line => is_parted_iff text letters line member, unended_line text letters above below cut⟩

namespace Sample

-- Lines with each of the three endings. Neither the form feed nor the line separator ends one, and the carriage return
-- at the end of the text belongs to the body of the last line.
def mixed : List Letter := (Text.ofString "a\x0cb\r\n\u2028\n\nc\r").toList

def firstLines : List (List Letter) := [['a', '\x0c', 'b', '\r', '\n'], ['\u2028', '\n'], ['\n']]

def lastLine : List Letter := ['c', '\r']

end Sample

theorem text_is_cut_in_one_way_once :
    splitLines Sample.mixed = Sample.firstLines ++ Sample.lastLine :: [] ∧
      IsCut Sample.mixed (Sample.firstLines ++ [Sample.lastLine]) ∧
      (Line.ofLetters Sample.lastLine).ending = [] ∧ IsParted Sample.lastLine ⟨Sample.lastLine, []⟩ ∧
      Letter.char '\n' ∉ Sample.lastLine := by
  have cut : splitLines Sample.mixed = Sample.firstLines ++ Sample.lastLine :: [] := by decide
  obtain ⟨only, parts, _⟩ := text_is_cut_in_one_way Sample.mixed
  obtain ⟨parted, unended⟩ := parts Sample.firstLines Sample.lastLine [] cut
  exact ⟨cut, (only _).mpr cut.symm, rfl, (parted _).mpr rfl, (unended rfl).1⟩

end ConstantSweep.Text

import ConstantSweep.Text.Basic

set_option autoImplicit false

namespace ConstantSweep.Text

def splitAfter {α : Type} (ends : α → Bool) : List α → List (List α)
  | [] => []
  | c :: rest =>
      if ends c then [c] :: splitAfter ends rest
      else match splitAfter ends rest with
        | [] => [[c]]
        | line :: lines => (c :: line) :: lines

def splitLines : List Letter → List (List Letter) := splitAfter (· == '\n')

structure Line where
  body : List Letter
  ending : List Letter
  deriving DecidableEq, Repr

-- The ending is a line feed with the carriage return before it, a line feed alone, or nothing.
def Line.ofLetters : List Letter → Line
  | [] => ⟨[], []⟩
  | [.char '\r', .char '\n'] => ⟨[], ['\r', '\n']⟩
  | [.char '\n'] => ⟨[], ['\n']⟩
  | c :: rest => ⟨c :: (Line.ofLetters rest).body, (Line.ofLetters rest).ending⟩

def Line.toLetters (line : Line) : List Letter := line.body ++ line.ending

def unifyLineEnds : List Char → List Char
  | [] => []
  | '\r' :: '\n' :: rest => '\n' :: unifyLineEnds rest
  | '\r' :: rest => '\n' :: unifyLineEnds rest
  | c :: rest => c :: unifyLineEnds rest

theorem flatten_split_after {α : Type} (ends : α → Bool) (list : List α) :
    (splitAfter ends list).flatten = list := by
  induction list with
  | nil => rfl
  | cons c rest ih =>
      unfold splitAfter
      split
      · simp [ih]
      · split <;> rename_i eq <;> rw [eq] at ih <;> simp_all

theorem flatten_split_lines (text : List Letter) : (splitLines text).flatten = text :=
  flatten_split_after _ text

theorem Line.to_letters_of_letters (text : List Letter) : (Line.ofLetters text).toLetters = text := by
  fun_induction Line.ofLetters text <;> simp_all [Line.toLetters]

end ConstantSweep.Text

import ConstantSweep.Text.Basic
import ConstantSweep.Text.Ranges

set_option autoImplicit false

namespace ConstantSweep.Text

def blankRanges : List (Nat × Nat) :=
  [(9, 13), (28, 32), (0x85, 0x85), (0xa0, 0xa0), (0x1680, 0x1680), (0x2000, 0x200a),
   (0x2028, 0x2029), (0x202f, 0x202f), (0x205f, 0x205f), (0x3000, 0x3000)]

def isBlank (c : Letter) : Bool := within blankRanges c.code

-- The white space of ASCII: tab, line feed, vertical tab, form feed, carriage return, space.
def isAsciiBlank (c : Letter) : Bool := c == ' ' || (9 ≤ c.code && c.code ≤ 13)

-- The white space that may surround a number: that of ASCII without the information separators, and that of
-- Unicode beyond ASCII.
def surroundsNumber (c : Letter) : Bool := if c.code < 128 then isAsciiBlank c else isBlank c

def trim {α : Type} (blank : α → Bool) (text : List α) : List α :=
  ((text.dropWhile blank).reverse.dropWhile blank).reverse

def runsOf {α : Type} (separates : α → Bool) : List α → List (List α)
  | [] => []
  | c :: rest =>
      if separates c then runsOf separates rest
      else match rest with
        | [] => [[c]]
        | next :: _ =>
            if separates next then [c] :: runsOf separates rest
            else match runsOf separates rest with
              | [] => [[c]]
              | run :: runs => (c :: run) :: runs

theorem ascii_blank_is_blank (c : Letter) (ascii : isAsciiBlank c = true) : isBlank c = true := by
  simp only [isAsciiBlank, Bool.or_eq_true, Bool.and_eq_true, beq_iff_eq, decide_eq_true_eq] at ascii
  rcases ascii with same | ⟨low, high⟩
  · subst same; decide
  · rw [isBlank, within_iff]
    exact ⟨(9, 13), by simp [blankRanges], low, high⟩

end ConstantSweep.Text

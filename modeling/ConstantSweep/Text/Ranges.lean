set_option autoImplicit false

namespace ConstantSweep.Text

def within (table : List (Nat × Nat)) (code : Nat) : Bool :=
  table.any fun range => range.1 ≤ code && code ≤ range.2

theorem within_iff (table : List (Nat × Nat)) (code : Nat) :
    within table code = true ↔ ∃ range ∈ table, range.1 ≤ code ∧ code ≤ range.2 := by
  simp [within]

end ConstantSweep.Text

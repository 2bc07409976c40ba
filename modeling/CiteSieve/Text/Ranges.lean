/-!
# Sets of code points

A set of code points is a list of inclusive ranges in increasing order.
-/

namespace CiteSieve.Text

/-- Inclusive ranges of code points, in increasing order. -/
abbrev Ranges := List (Nat × Nat)

/-- Some range holds `n`. -/
def Ranges.has (rs : Ranges) (n : Nat) : Bool :=
  rs.any fun r => decide (r.1 ≤ n) && decide (n ≤ r.2)

theorem Ranges.has_iff {rs : Ranges} {n : Nat} :
    rs.has n = true ↔ ∃ r ∈ rs, r.1 ≤ n ∧ n ≤ r.2 := by
  simp [Ranges.has]

end CiteSieve.Text

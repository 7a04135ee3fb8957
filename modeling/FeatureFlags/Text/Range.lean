/-!
# Text/Range — properties of code points as closed ranges

A property of code points is written down as the ranges of numbers that have it.
-/

namespace FeatureFlags

namespace Range

/-- **Membership**: some range of the list holds the number. -/
def mem (ranges : List (Nat × Nat)) (n : Nat) : Bool :=
  ranges.any fun r => r.1 ≤ n && n ≤ r.2

theorem mem_eq_true_iff {ranges : List (Nat × Nat)} {n : Nat} :
    mem ranges n = true ↔ ∃ r ∈ ranges, r.1 ≤ n ∧ n ≤ r.2 := by
  simp [mem]

end Range

end FeatureFlags

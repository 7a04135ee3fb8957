import FeatureFlags.Proofs.Text.Decimal
import FeatureFlags.Text.Case

/-!
# Proofs/Text/Small — texts that lower-casing keeps

A code point is small when lower-casing keeps it wherever it stands, which rules the capital sigma
out besides the capitals.  Digits are small in every script: the runs of capitals leave out their
ranges.
-/

namespace FeatureFlags

/-- Tables that do not meet, compared entry by entry. -/
theorem Range.apart_of_all {α β : Type} {table : List α} {table' : List β} {first last : α → Nat}
    {first' last' : β → Nat}
    (h : (table.all fun r => table'.all fun s =>
      Nat.blt (last r) (first' s) || Nat.blt (last' s) (first r)) = true) :
    ∀ r ∈ table, ∀ s ∈ table', last r < first' s ∨ last' s < first r := by
  simpa only [List.all_eq_true, Bool.or_eq_true, Nat.blt_eq] using h

namespace CodePoint

variable {c : CodePoint} {d : Nat}

/-- **A code point that lower-casing keeps**, whatever stands around it. -/
structure Small (c : CodePoint) : Prop where
  ne_sigma : c.toNat ≠ 0x3A3
  lower : c.lower = [c]

theorem small_of_ascii (h : c.toNat < 0x80) (hc : ¬ (0x41 ≤ c.toNat ∧ c.toNat ≤ 0x5A)) :
    c.Small where
  ne_sigma := by omega
  lower := by rw [lower, if_pos h, if_neg hc]

/-- A range without capitals holds small code points only. -/
theorem small_of_range {low high : Nat} (hc : low ≤ c.toNat ∧ c.toNat ≤ high)
    (hdotted : high < 0x130 ∨ 0x130 < low)
    (hruns : ∀ r ∈ capitalRuns, high < r.first ∨ r.last < low) : c.Small := by
  have hcapitals : ∃ r ∈ capitalRuns, r.first = 0x41 ∧ r.last = 0x5A := by decide +kernel
  have hsigmas : ∃ r ∈ capitalRuns, r.first = 0x3A3 ∧ r.last = 0x3A3 := by decide +kernel
  obtain ⟨letters, hmem, hfirst, hlast⟩ := hcapitals
  have hletters := hruns letters hmem
  obtain ⟨sigma, hmem', hfirst', hlast'⟩ := hsigmas
  have hsigma := hruns sigma hmem'
  by_cases hlow : c.toNat < 0x80
  · exact small_of_ascii hlow (by omega)
  · have hnone : capitalRuns.findSome? (·.small? c.toNat) = none := by
      refine List.findSome?_eq_none_iff.2 fun r hr => if_neg fun hin => ?_
      have hapart := hruns r hr
      omega
    refine ⟨by omega, ?_⟩
    rw [lower, if_neg hlow, if_neg (by omega), hnone]

/-- The runs of capitals and the ranges of digits do not meet. -/
theorem capitalRuns_apart : ∀ first ∈ digitZeros, ∀ r ∈ capitalRuns,
    first + 9 < r.first ∨ r.last < first :=
  Range.apart_of_all (by decide +kernel)

/-- **Digits are small.** -/
theorem small_of_digit? (h : c.digit? = some d) : c.Small := by
  obtain ⟨first, hf, hc, hd⟩ := exists_first_of_digit? h
  have hdotted : ∀ first ∈ digitZeros, first + 9 < 0x130 ∨ 0x130 < first := by decide +kernel
  exact small_of_range (by omega) (hdotted first hf) (capitalRuns_apart first hf)

end CodePoint

namespace Text

variable {t : Text}

theorem lowerAfter_of_small (h : ∀ c ∈ t, c.Small) (before : Text) : lowerAfter before t = t := by
  induction t generalizing before with
  | nil => rfl
  | cons c t ih =>
    obtain ⟨hc, ht⟩ := List.forall_mem_cons.1 h
    rw [lowerAfter, if_neg fun hs => hc.ne_sigma hs.1, hc.lower, ih ht]
    rfl

/-- **A text of small code points is kept.** -/
theorem lower_of_small (h : ∀ c ∈ t, c.Small) : t.lower = t := lowerAfter_of_small h []

end Text

end FeatureFlags

import FeatureFlags.Text.CodePoint

/-!
# Proofs/Text/CodePoint — code points and their numbers

Every code point has a number below U+110000 and every such number has a code point; the two
directions undo each other.
-/

namespace FeatureFlags

namespace CodePoint

theorem ofNat_toNat (c : CodePoint) : ofNat c.toNat = c := by
  cases c with
  | scalar c =>
    have hvalid : ¬ (0xD800 ≤ c.toNat ∧ c.toNat < 0xE000) := by
      have h : c.toNat < 0xD800 ∨ 0xDFFF < c.toNat ∧ c.toNat < 0x110000 := c.valid
      omega
    rw [toNat, ofNat, dif_neg hvalid, Char.ofNat_toNat]
  | surrogate i =>
    have hrange : 0xD800 ≤ 0xD800 + i.val ∧ 0xD800 + i.val < 0xE000 := by omega
    rw [toNat, ofNat, dif_pos hrange]
    exact congrArg surrogate (Fin.ext (Nat.add_sub_cancel_left _ _))

theorem toNat_lt (c : CodePoint) : c.toNat < 0x110000 := by
  cases c with
  | scalar c =>
    have h : c.toNat < 0xD800 ∨ 0xDFFF < c.toNat ∧ c.toNat < 0x110000 := c.valid
    rw [toNat]
    omega
  | surrogate i => rw [toNat]; omega

theorem toNat_ofNat {n : Nat} (h : n < 0x110000) : (ofNat n).toNat = n := by
  rw [ofNat]
  split
  · next hn =>
    change 0xD800 + (n - 0xD800) = n
    omega
  · next hn =>
    have hvalid : n.isValidChar := by
      by_cases hlow : n < 0xD800
      · exact .inl hlow
      · exact .inr ⟨by omega, h⟩
    rw [Char.ofNat, dif_pos hvalid]
    rfl

end CodePoint

end FeatureFlags

import FeatureFlags.Version

/-!
# Proofs/Version/Order — the order of versions is a total preorder on all texts

A comparison of versions is lexicographic twice over: numbers come before tags, and numbers are
compared one by one.  Each level is pulled back to an order that is known,

    numbers   ↦   the same list, filled up with zeros to a common length,
    tags      ↦   the order of code points, with no tag on top,

so well-formedness plays no part: `compareTexts_preorder` speaks of every text, and a part between
dots that is no number or a hyphen with nothing behind it has its place in the order too.
-/

namespace FeatureFlags

open Std

instance : TransOrd CodePoint :=
  inferInstanceAs (TransCmp (compareOn CodePoint.toNat))

namespace Version

/-! ## Numbers -/

/-- Numbers filled up with zeros to a length. -/
def filled (n : Nat) (as : List Nat) : List Nat := as.rightpad n 0

theorem filled_nil (n : Nat) : filled n [] = List.replicate n 0 := rfl

theorem filled_cons (n a : Nat) (as : List Nat) : filled (n + 1) (a :: as) = a :: filled n as := by
  simp [filled, List.rightpad]

/-- A length that holds a list with a first number is not zero. -/
theorem exists_succ_of_length_le {n a : Nat} {as : List Nat} (h : (a :: as).length ≤ n) :
    ∃ m, n = m + 1 ∧ as.length ≤ m :=
  ⟨n - 1, by rw [List.length_cons] at h; omega⟩

/-- **Zeros against numbers** compare as lists of one length do. -/
theorem compareZeros_eq_compare {bs : List Nat} {n : Nat} (hb : bs.length ≤ n) :
    compareZeros bs = compare (filled n []) (filled n bs) := by
  induction bs generalizing n with
  | nil => exact ReflOrd.compare_self.symm
  | cons b bs ih =>
    obtain ⟨m, rfl, hm⟩ := exists_succ_of_length_le hb
    rw [compareZeros, ih hm, filled_cons, filled_nil, filled_nil, List.replicate_succ,
      List.compare_cons_cons]

/-- **Numbers compare as the lists filled up to a common length do**, whatever that length is. -/
theorem compareNumbers_eq_compare {as bs : List Nat} {n : Nat} (ha : as.length ≤ n)
    (hb : bs.length ≤ n) : compareNumbers as bs = compare (filled n as) (filled n bs) := by
  induction as generalizing bs n with
  | nil => exact compareZeros_eq_compare hb
  | cons a as ih =>
    obtain ⟨m, rfl, hm⟩ := exists_succ_of_length_le ha
    cases bs with
    | nil =>
      have h0 : ([] : List Nat).length ≤ m := m.zero_le
      rw [compareNumbers, ih hm h0, filled_cons, filled_nil, filled_nil, List.replicate_succ,
        List.compare_cons_cons]
    | cons b bs =>
      rw [compareNumbers, ih hm (by simpa using hb), filled_cons, filled_cons,
        List.compare_cons_cons]

instance : TransCmp compareNumbers where
  eq_swap {as bs} := by
    have ha : as.length ≤ max as.length bs.length := Nat.le_max_left _ _
    have hb : bs.length ≤ max as.length bs.length := Nat.le_max_right _ _
    rw [compareNumbers_eq_compare ha hb, compareNumbers_eq_compare hb ha]
    exact OrientedOrd.eq_swap
  isLE_trans {as bs cs} hab hbc := by
    -- one length for all three lists, or the two hypotheses speak of different fillings
    let n := max as.length (max bs.length cs.length)
    have ha : as.length ≤ n := Nat.le_max_left _ _
    have hb : bs.length ≤ n := Nat.le_trans (Nat.le_max_left _ _) (Nat.le_max_right _ _)
    have hc : cs.length ≤ n := Nat.le_trans (Nat.le_max_right _ _) (Nat.le_max_right _ _)
    rw [compareNumbers_eq_compare ha hb] at hab
    rw [compareNumbers_eq_compare hb hc] at hbc
    rw [compareNumbers_eq_compare ha hc]
    exact TransOrd.isLE_trans hab hbc

/-! ## Tags -/

instance : TransCmp compareTags where
  eq_swap {a b} := by
    cases a with
    | none => cases b <;> rfl
    | some a =>
      cases b with
      | none => rfl
      | some b => exact OrientedOrd.eq_swap
  isLE_trans {a b c} hab hbc := by
    cases c with
    | none => cases a <;> rfl
    | some c =>
      cases b with
      | none => exact absurd hbc Bool.false_ne_true
      | some b =>
        cases a with
        | none => exact absurd hab Bool.false_ne_true
        | some a => exact TransOrd.isLE_trans (a := a) hab hbc

/-! ## Versions and texts -/

/-- A comparison of what a function makes of two values. -/
def comparingBy {α β : Type} (f : α → β) (cmp : β → β → Ordering) (a b : α) : Ordering :=
  cmp (f a) (f b)

instance {α β : Type} (f : α → β) (cmp : β → β → Ordering) [TransCmp cmp] :
    TransCmp (comparingBy f cmp) where
  eq_swap {a _} := (OrientedCmp.eq_swap : cmp (f a) _ = _)
  isLE_trans {a _ _} hab hbc := (TransCmp.isLE_trans hab hbc : (cmp (f a) _).isLE)

/-- **Versions compare lexicographically**, by their numbers and then by their tags. -/
instance : TransOrd Version :=
  inferInstanceAs
    (TransCmp (compareLex (comparingBy numbers compareNumbers) (comparingBy tag compareTags)))

instance : TransCmp compareTexts :=
  inferInstanceAs (TransCmp (comparingBy ofText compare))

/-- **The order of versions is a total preorder on all texts**, and texts that compare equal compare
alike with every other one. -/
theorem compareTexts_preorder (a b c : Text) :
    compareTexts a a = .eq ∧ compareTexts a b = (compareTexts b a).swap ∧
      ((compareTexts a b).isLE → (compareTexts b c).isLE → (compareTexts a c).isLE) ∧
      (compareTexts a b = .eq → compareTexts a c = compareTexts b c) :=
  ⟨ReflCmp.compare_self, OrientedCmp.eq_swap, TransCmp.isLE_trans, TransCmp.congr_left⟩

/-- A pre-release, its release with a missing number, and the same release written in full. -/
theorem compareTexts_preorder_preRelease :
    (compareTexts "1.0-beta" "1").isLE ∧ compareTexts "1" "1.0.0" = .eq ∧
      (compareTexts "1.0-beta" "1.0.0").isLE ∧
      compareTexts "1" "1.0-beta" = compareTexts "1.0.0" "1.0-beta" := by
  have hlt : (compareTexts "1.0-beta" "1").isLE := by decide
  have heq : compareTexts "1" "1.0.0" = .eq := by decide
  refine ⟨hlt, heq, (compareTexts_preorder "1.0-beta" "1" "1.0.0").2.2.1 hlt ?_, ?_⟩
  · exact Ordering.isLE_of_eq_eq heq
  · exact (compareTexts_preorder "1" "1.0.0" "1.0-beta").2.2.2 heq

end Version

end FeatureFlags

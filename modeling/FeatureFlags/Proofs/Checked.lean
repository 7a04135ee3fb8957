import FeatureFlags.Issue
import Mathlib.Algebra.GroupWithZero.Nat
import Mathlib.Data.List.Forall2

/-!
# Proofs/Checked — data that passed

Data passes in all of its parts or not at all: a pair if both of its halves do, and items if each of
them does (`itemsFrom_eq_ok_iff`).
-/

namespace FeatureFlags

/-- What was made of a result, was made of one that is there. -/
theorem map_eq_ok_iff {ε α β : Type} {f : α → β} {x : Except ε α} {b : β} :
    x.map f = .ok b ↔ ∃ a, x = .ok a ∧ f a = b := by
  cases x with
  | error => exact iff_of_false nofun nofun
  | ok a =>
    refine ⟨fun h => ⟨a, rfl, Except.ok.inj h⟩, ?_⟩
    rintro ⟨_, ⟨⟩, rfl⟩
    rfl

/-- What was done with a result, was done with one that is there. -/
theorem bind_eq_ok_iff {ε α β : Type} {f : α → Except ε β} {x : Except ε α} {b : β} :
    x >>= f = .ok b ↔ ∃ a, x = .ok a ∧ f a = .ok b := by
  cases x with
  | error => exact iff_of_false nofun nofun
  | ok a =>
    refine ⟨fun h => ⟨a, rfl, h⟩, ?_⟩
    rintro ⟨_, ⟨⟩, h⟩
    exact h

theorem mapError_eq_ok_iff {ε δ α : Type} {f : ε → δ} {x : Except ε α} {a : α} :
    x.mapError f = .ok a ↔ x = .ok a := by
  cases x with
  | error => exact iff_of_false nofun nofun
  | ok => simp only [Except.mapError, Except.ok.injEq]

/-- Where a check of all passes, each one passes. -/
theorem forall_of_forM_eq_ok {ε α : Type} {check : α → Except ε Unit} {as : List α} {u : Unit}
    (h : as.forM check = .ok u) : ∀ a ∈ as, check a = .ok () := by
  induction as with
  | nil => exact List.forall_mem_nil _
  | cons a as ih =>
    rw [List.forM] at h
    cases ha : check a with
    | error => rw [ha] at h; cases h
    | ok => rw [ha] at h; exact List.forall_mem_cons.2 ⟨ha, ih h⟩

namespace Checked

theorem both_eq_ok_iff {α β : Type} {x : Checked α} {y : Checked β} {a : α} {b : β} :
    both x y = .ok (a, b) ↔ x = .ok a ∧ y = .ok b := by
  cases x <;> cases y <;> simp [both]

theorem within_eq_ok_iff {α : Type} {s : Segment} {x : Checked α} {a : α} :
    within s x = .ok a ↔ x = .ok a := by
  cases x with
  | error => exact iff_of_false nofun nofun
  | ok => exact Iff.rfl

/-- **Items pass all together or not at all.** -/
theorem itemsFrom_eq_ok_iff {α β : Type} {check : α → Checked β} {i : Nat} {as : List α}
    {bs : List β} :
    itemsFrom check i as = .ok bs ↔ List.Forall₂ (fun a b => check a = .ok b) as bs := by
  induction as generalizing i bs with
  | nil =>
    rw [itemsFrom, List.forall₂_nil_left_iff, Except.ok.injEq, eq_comm]
  | cons a as ih =>
    rw [itemsFrom, map_eq_ok_iff, List.forall₂_cons_left_iff]
    constructor
    · rintro ⟨⟨b, bs⟩, h, rfl⟩
      obtain ⟨ha, has⟩ := both_eq_ok_iff.1 h
      exact ⟨b, bs, within_eq_ok_iff.1 ha, ih.1 has, rfl⟩
    · rintro ⟨b, bs, ha, has, rfl⟩
      exact ⟨(b, bs), both_eq_ok_iff.2 ⟨within_eq_ok_iff.2 ha, ih.2 has⟩, rfl⟩

/-! ## The number of issues -/

variable {α β : Type} {x : Checked α}

theorem count_map (f : α → β) (x : Checked α) : count (x.map f) = x.count := by
  cases x <;> rfl

theorem count_within (s : Segment) (x : Checked α) : (within s x).count = x.count := by
  cases x with
  | error => exact List.length_map _
  | ok => rfl

theorem count_both (x : Checked α) (y : Checked β) : (both x y).count = x.count + y.count := by
  cases x with
  | error =>
    cases y with
    | error => exact List.length_append
    | ok => exact (Nat.add_zero _).symm
  | ok => cases y <;> exact (Nat.zero_add _).symm

/-- **The issues of items** are those of each item alone. -/
theorem count_itemsFrom (check : α → Checked β) (i : Nat) (as : List α) :
    (itemsFrom check i as).count = (as.map fun a => (check a).count).sum := by
  induction as generalizing i with
  | nil => rfl
  | cons a as ih => rw [itemsFrom, count_map, count_both, count_within, ih, List.map_cons,
      List.sum_cons]

/-! ## Reasons -/

/-- **What is refused is refused for a reason.** -/
def Told (x : Checked α) : Prop := x.count = 0 → ∃ a, x = .ok a

namespace Told

theorem within (h : x.Told) (s : Segment) : (within s x).Told := by
  intro hcount
  rw [count_within] at hcount
  obtain ⟨a, rfl⟩ := h hcount
  exact ⟨a, rfl⟩

theorem map (h : x.Told) (f : α → β) : Told (x.map f) := by
  intro hcount
  rw [count_map] at hcount
  obtain ⟨a, rfl⟩ := h hcount
  exact ⟨f a, rfl⟩

theorem both {y : Checked β} (hx : x.Told) (hy : y.Told) : (both x y).Told := by
  intro hcount
  rw [count_both, Nat.add_eq_zero_iff] at hcount
  obtain ⟨a, rfl⟩ := hx hcount.1
  obtain ⟨b, rfl⟩ := hy hcount.2
  exact ⟨(a, b), rfl⟩

end Told

end Checked

end FeatureFlags

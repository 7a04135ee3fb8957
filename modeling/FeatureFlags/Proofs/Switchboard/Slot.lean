import Mathlib.Logic.Relation
import FeatureFlags.Switchboard.Basic

/-!
# Proofs/Switchboard/Slot — the room for one unread value

A reader or an inbox has room for one value that has not been read.  A slot is what is seen of it:
the listener itself, the values that have arrived, and those that are still coming by way of the
event loop; a reader is handed its values at once.

    handed ──▸ coming ──▸ arrived ──▸ unread ──▸ read

A slot becomes another one by few kinds of steps (`Slot.Step`).  None of them takes back what has
arrived, none opens what is closed, and by all of them the unread value stays the latest one
(`Slot.Latest`).  Reading leaves nothing unread (`Slot.Latest.taken`).
-/

namespace FeatureFlags

/-- The value a job brings to an inbox. -/
def Job.valueFor (l : ListenerId) : Job → Option Bool
  | .arrival i value => if i = l then some value else none
  | .resume _ => none

namespace Listener

/-- A reader is handed its values at once. -/
def isReader : Listener → Bool
  | .reader _ _ _ => true
  | _ => false

/-- The values that are handed to a reader reach it, and so do those that are handed to an inbox
unless its event loop stands still. -/
def isReached : Listener → Bool
  | .reader _ _ _ => true
  | .inbox _ loop _ _ => loop ≠ .idle
  | _ => false

theorem store_of_closed {x : Listener} (h : x.closed = true) (value : Bool) :
    x.store value = x := by
  rcases x with _ | _ | ⟨_, _, _ | _⟩ | ⟨_, _, _, _ | _⟩ <;> first | rfl | cases h

theorem isReader_store (value : Bool) (x : Listener) : (x.store value).isReader = x.isReader := by
  rcases x with _ | _ | ⟨_, _, _ | _⟩ | ⟨_, _, _, _ | _⟩ <;> rfl

theorem take_of_unread {x : Listener} (h : x.unread = none) : x.take = x := by
  cases x with
  | callback | recorder => rfl
  | reader | inbox =>
    cases h
    rfl

end Listener

/-! ## Slots -/

/-- **A slot**: a reader or an inbox, what has arrived, and what is coming. -/
structure Slot where
  listener : Listener
  arrived : List Bool
  coming : List Bool

namespace Slot

/-- **What becomes of a slot**, reading apart. -/
inductive Step : Slot → Slot → Prop
  | stored {topic : Text} {unread : Option Bool} {arrived : List Bool} (value : Bool) :
      Step ⟨.reader topic unread false, arrived, []⟩
        ⟨.reader topic (some value) false, arrived ++ [value], []⟩
  | queued {topic : Text} {unread : Option Bool} {closed : Bool} {arrived coming : List Bool}
      (value : Bool) :
      Step ⟨.inbox topic .running unread closed, arrived, coming⟩
        ⟨.inbox topic .running unread closed, arrived, coming ++ [value]⟩
  | arrives {x : Listener} {arrived coming : List Bool} (value : Bool) :
      Step ⟨x, arrived, value :: coming⟩ ⟨x.store value, arrived ++ [value], coming⟩
  | closes {x : Listener} {arrived coming : List Bool} :
      Step ⟨x, arrived, coming⟩ ⟨x.close, arrived, coming⟩
  | closesLoop {x : Listener} {arrived coming : List Bool} :
      Step ⟨x, arrived, coming⟩ ⟨x.closeLoop, arrived, coming⟩

/-- Steps one after the other. -/
abbrev Steps : Slot → Slot → Prop := Relation.ReflTransGen Step

/-- **The unread value is the latest one** of those that have arrived behind the first `k`; what is
closed has forgotten it, if it is a reader. -/
structure Latest (k : Nat) (slot : Slot) : Prop where
  behind : k ≤ slot.arrived.length
  unread : slot.listener.closed = false → slot.listener.unread = (slot.arrived.drop k).getLast?
  emptied : slot.listener.isReader → slot.listener.closed → slot.listener.unread = none

variable {slot slot' : Slot} {k : Nat}

theorem getLast?_drop_concat {α : Type} {k : Nat} {xs : List α} (h : k ≤ xs.length) (a : α) :
    ((xs ++ [a]).drop k).getLast? = some a := by
  rw [List.drop_append_of_le_length h, List.getLast?_concat]

namespace Step

theorem arrived_prefix (h : Step slot slot') : slot.arrived <+: slot'.arrived := by
  cases h with
  | stored value | arrives value => exact List.prefix_append _ _
  | queued | closes | closesLoop => exact List.prefix_refl _

theorem isReached (h : Step slot slot') (hr : slot.listener.isReached) :
    slot'.listener.isReached := by
  cases h with
  | stored => rfl
  | queued => rfl
  | @arrives x =>
    rcases x with _ | _ | ⟨_, _, _ | _⟩ | ⟨_, _, _, _ | _⟩ <;> exact hr
  | @closes x => cases x <;> exact hr
  | @closesLoop x => cases x <;> first | exact hr | rfl

theorem closed (h : Step slot slot') (hr : slot.listener.isReached)
    (hc : slot.listener.closed = true) : slot'.listener.closed = true := by
  cases h with
  | stored => cases hc
  | queued => exact hc
  | @arrives x => rcases x with _ | _ | ⟨_, _, _ | _⟩ | ⟨_, _, _, _ | _⟩ <;> exact hc
  | @closes x => cases x <;> first | exact hc | rfl
  | @closesLoop x => cases x <;> exact hc

/-- **A step keeps the latest value.** -/
theorem latest (h : Step slot slot') (hr : slot.listener.isReached) (hl : slot.Latest k) :
    slot'.Latest k := by
  obtain ⟨hk, hu, he⟩ := hl
  cases h with
  | @stored topic unread arrived value =>
    refine ⟨?_, fun _ => (getLast?_drop_concat hk value).symm, fun _ hc => by cases hc⟩
    exact Nat.le_trans hk (by rw [List.length_append]; exact Nat.le_add_right _ _)
  | queued => exact ⟨hk, hu, he⟩
  | @arrives x arrived coming value =>
    have hk' : k ≤ (arrived ++ [value]).length :=
      Nat.le_trans hk (by rw [List.length_append]; exact Nat.le_add_right _ _)
    cases x with
    | callback | recorder => cases hr
    | reader topic unread closed =>
      cases closed with
      | true => exact ⟨hk', nofun, he⟩
      | false => exact ⟨hk', fun _ => (getLast?_drop_concat hk value).symm, fun _ hc => by cases hc⟩
    | inbox topic loop unread closed =>
      cases closed with
      | true => exact ⟨hk', nofun, he⟩
      | false => exact ⟨hk', fun _ => (getLast?_drop_concat hk value).symm, fun h => by cases h⟩
  | @closes x =>
    cases x with
    | callback | recorder => cases hr
    | reader => exact ⟨hk, nofun, fun _ _ => rfl⟩
    | inbox => exact ⟨hk, nofun, nofun⟩
  | @closesLoop x =>
    cases x with
    | callback | recorder => cases hr
    | reader => exact ⟨hk, hu, he⟩
    | inbox => exact ⟨hk, hu, nofun⟩

end Step

namespace Steps

theorem arrived_prefix (h : Steps slot slot') : slot.arrived <+: slot'.arrived := by
  induction h with
  | refl => exact List.prefix_refl _
  | tail _ hs ih => exact ih.trans hs.arrived_prefix

/-- **Steps keep the latest value**, and what is closed stays closed. -/
theorem latest (h : Steps slot slot') (hr : slot.listener.isReached) (hl : slot.Latest k) :
    slot'.Latest k ∧ (slot.listener.closed = true → slot'.listener.closed = true) := by
  suffices slot'.listener.isReached ∧ slot'.Latest k ∧
      (slot.listener.closed = true → slot'.listener.closed = true) from this.2
  induction h with
  | refl => exact ⟨hr, hl, id⟩
  | tail _ hs ih =>
    obtain ⟨hr, hl, hc⟩ := ih
    exact ⟨hs.isReached hr, hs.latest hr hl, fun h => hs.closed hr (hc h)⟩

end Steps

/-- A slot once it was read from; what is closed is not read from any more. -/
def taken (slot : Slot) : Slot :=
  { slot with listener := if slot.listener.closed then slot.listener else slot.listener.take }

theorem isReached_taken (slot : Slot) :
    slot.taken.listener.isReached = slot.listener.isReached := by
  unfold taken
  dsimp only
  split
  · rfl
  · cases slot.listener <;> rfl

theorem isReader_taken (slot : Slot) : slot.taken.listener.isReader = slot.listener.isReader := by
  unfold taken
  dsimp only
  split
  · rfl
  · cases slot.listener <;> rfl

/-- A slot that is read from has no unread value left, and all that has arrived is behind. -/
theorem Latest.taken (h : slot.Latest k) :
    slot.taken.Latest (if slot.listener.closed = false ∧ slot.listener.unread.isSome then
      slot.arrived.length else k) := by
  obtain ⟨hk, hu, he⟩ := h
  obtain ⟨x, arrived, coming⟩ := slot
  dsimp only at hk hu he ⊢
  rw [taken]
  cases hc : x.closed with
  | true =>
    rw [if_pos rfl, if_neg (by simp)]
    exact ⟨hk, hu, he⟩
  | false =>
    rw [if_neg Bool.false_ne_true]
    have hclosed : x.take.closed = false := by
      cases x <;> first | rfl | exact hc
    cases hx : x.unread with
    | none =>
      rw [if_neg (by simp), Listener.take_of_unread hx]
      exact ⟨hk, hu, he⟩
    | some value =>
      rw [if_pos ⟨rfl, rfl⟩]
      refine ⟨Nat.le_refl _, fun _ => ?_, fun _ hshut => ?_⟩
      · rw [List.drop_length]
        cases x <;> rfl
      · rw [hclosed] at hshut
        cases hshut

end Slot

end FeatureFlags

import FeatureFlags.Flag.Decoding
import FeatureFlags.Proofs.Checked

/-!
# Proofs/Reading — a value of a simple type is read, or refused for one reason

Reading a string, a truth value or a number either gives it or finds one issue, which lies at the
value itself (`Checked.Single`).  Only where a value has parts can there be more issues than one.
-/

namespace FeatureFlags

namespace Checked

variable {α β : Type} {x : Checked α}

/-- **Read, or refused for one reason.** -/
def Single (x : Checked α) : Prop := (∃ a, x = .ok a) ∨ ∃ kind, x = .fail kind

namespace Single

theorem ok (a : α) : Single (.ok a) := .inl ⟨a, rfl⟩

theorem fail (kind : IssueKind) : Single (.fail kind : Checked α) := .inr ⟨kind, rfl⟩

theorem bind {f : α → Checked β} (hx : x.Single) (hf : ∀ a, (f a).Single) :
    (x >>= f).Single := by
  obtain ⟨a, rfl⟩ | ⟨kind, rfl⟩ := hx
  · exact hf a
  · exact fail kind

theorem map {f : α → β} (hx : x.Single) : Single (x.map f) := by
  obtain ⟨a, rfl⟩ | ⟨kind, rfl⟩ := hx
  · exact ok (f a)
  · exact fail kind

theorem ite {c : Prop} [Decidable c] {y : Checked α} (hx : x.Single) (hy : y.Single) :
    (if c then x else y).Single := by
  split
  · exact hx
  · exact hy

theorem elim (o : Option α) (kind : IssueKind) : Single (o.elim (.fail kind) .ok) := by
  cases o with
  | none => exact fail kind
  | some a => exact ok a

theorem told (h : x.Single) : x.Told := by
  obtain ⟨a, rfl⟩ | ⟨kind, rfl⟩ := h
  · exact fun _ => ⟨a, rfl⟩
  · exact nofun

end Single

end Checked

/-- What is found behind other fields is not found among them. -/
theorem Json.lookup?_append (name : Text) (fields more : List (Text × Json)) :
    Json.lookup? name (fields ++ more)
      = (Json.lookup? name fields).or (Json.lookup? name more) := by
  induction fields with
  | nil => rfl
  | cons f fields ih =>
    rw [List.cons_append, Json.lookup?, Json.lookup?, ih]
    split <;> rfl

namespace Reading

open Checked

theorem string_eq_ok_iff {v : Json} {t : Text} : string v = .ok t ↔ v = .str t := by
  cases v with
  | str u => exact ⟨fun h => congrArg _ (Except.ok.inj h), fun h => by cases h; rfl⟩
  | _ => exact iff_of_false nofun nofun

theorem optional_eq_ok_iff {α : Type} {read : Json → Checked α} (hnull : ∀ a, read .null ≠ .ok a)
    {v : Json} {o : Option α} : optional read v = .ok o ↔
      (v = .null ∧ o = none) ∨ ∃ a, read v = .ok a ∧ o = some a := by
  cases v with
  | null =>
    refine ⟨fun h => .inl ⟨rfl, (Except.ok.inj h).symm⟩, ?_⟩
    rintro (⟨-, rfl⟩ | ⟨a, ha, -⟩)
    · rfl
    · exact absurd ha (hnull a)
  | _ =>
    refine map_eq_ok_iff.trans ⟨?_, ?_⟩
    · rintro ⟨a, ha, rfl⟩
      exact .inr ⟨a, ha, rfl⟩
    · rintro (⟨⟨⟩, -⟩ | ⟨a, ha, rfl⟩)
      exact ⟨a, ha, rfl⟩

theorem single_string (v : Json) : (string v).Single := by
  cases v with
  | str t => exact .ok t
  | _ => exact .fail _

theorem single_encoded {α : Type} {read : Text → Checked α} (h : ∀ t, (read t).Single) (t : Text) :
    (encoded read t).Single := .ite (.fail _) (h t)

theorem single_truthOfInt (n : Int) : (truthOfInt n).Single :=
  .ite (.ok _) (.ite (.ok _) (.fail _))

theorem single_truth (v : Json) : (truth v).Single := by
  cases v with
  | bool b => exact .ok b
  | str t => exact single_encoded (fun _ => .ite (.ok _) (.ite (.ok _) (.fail _))) t
  | int n => exact .ite (single_truthOfInt n) (.fail _)
  | float x =>
    rw [truth]
    split
    · exact .ite (single_truthOfInt _) (.fail _)
    · exact .fail _
  | _ => exact .fail _

theorem single_whole {α : Type} (r : Except IssueKind α) : (whole r).Single := by
  cases r with
  | error kind => exact .fail kind
  | ok a => exact .ok a

theorem single_integer (v : Json) : (integer v).Single := by
  cases v with
  | bool b => exact .ok _
  | int n => exact .ok n
  | str t => exact single_encoded (fun _ => single_whole _) t
  | float x =>
    refine .ite ?_ (.fail _)
    split
    · exact .ite (.ok _) (.fail _)
    · exact .fail _
  | _ => exact .fail _

theorem single_fraction (v : Json) : (fraction v).Single := by
  cases v with
  | float x => exact .ok x
  | int n => exact .elim _ _
  | bool b => exact .ok _
  | str t => exact single_encoded (fun _ => .elim _ _) t
  | _ => exact .fail _

theorem single_optional {α : Type} {read : Json → Checked α} (h : ∀ v, (read v).Single)
    (v : Json) : (optional read v).Single := by
  cases v with
  | null => exact .ok none
  | _ => exact (h _).map

/-! ## Fields -/

variable {α : Type} {name : Text} {read : Json → Checked α} {absent a : α}
  {fields : List (Text × Json)}

/-- **A field that may be left out** has a default. -/
theorem defaulted_eq_ok_iff : defaulted name read absent fields = .ok a ↔
    (Json.lookup? name fields).elim (a = absent) (read · = .ok a) := by
  rw [defaulted, within_eq_ok_iff]
  cases Json.lookup? name fields with
  | none => exact ⟨fun h => (Except.ok.inj h).symm, fun h => congrArg Except.ok h.symm⟩
  | some v => rfl

theorem told_defaulted (h : ∀ v, (read v).Told) : (defaulted name read absent fields).Told := by
  refine .within ?_ _
  cases Json.lookup? name fields with
  | none => exact fun _ => ⟨absent, rfl⟩
  | some v => exact h v

end Reading

end FeatureFlags

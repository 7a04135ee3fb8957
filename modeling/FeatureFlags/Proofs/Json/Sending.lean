import FeatureFlags.Json.Sending
import FeatureFlags.Proofs.Text.Encodable

/-!
# Proofs/Json/Sending — which values can be sent

Whatever stands between the texts of a value is made of characters, so a value can be sent if its
texts can be encoded (`send_isOk`), and so can a report of it.
-/

namespace FeatureFlags

namespace Json

open Text

/-! ## Written values -/

theorem encodable_escapePoint (c : CodePoint) : (ofChars (escapePoint c)).Encodable :=
  encodable_ofChars _

theorem encodable_compactPoint {c : CodePoint} (hc : c.isSurrogate = false) :
    (compactPoint c).Encodable := by
  rw [compactPoint]
  split
  · exact encodable_escapePoint c
  · exact List.forall_mem_singleton.2 hc

theorem encodable_compactText {t : Text} (h : t.Encodable) : (compactText t).Encodable := by
  refine List.forall_mem_append.2 ⟨List.forall_mem_cons.2 ⟨rfl, fun c hc => ?_⟩,
    List.forall_mem_singleton.2 rfl⟩
  obtain ⟨p, hp, hc⟩ := List.mem_flatMap.1 hc
  exact encodable_compactPoint (h p hp) c hc

mutual

/-- **A value can be encoded if all texts in it can.** -/
theorem encodable_compact (v : Json) (h : ∀ t ∈ v.strings, t.Encodable) :
    (compact v).Encodable := by
  cases v with
  | null | bool | int | float => exact encodable_ofChars _
  | str t =>
    rw [compact]
    exact encodable_compactText (h t (List.mem_singleton.2 rfl))
  | arr vs =>
    rw [compact]
    exact List.forall_mem_append.2
      ⟨List.forall_mem_cons.2 ⟨rfl, encodable_compactItems vs h⟩, List.forall_mem_singleton.2 rfl⟩
  | obj fields =>
    rw [compact]
    exact List.forall_mem_append.2
      ⟨List.forall_mem_cons.2 ⟨rfl, encodable_compactFields fields h⟩,
        List.forall_mem_singleton.2 rfl⟩

theorem encodable_compactItems (vs : List Json) (h : ∀ t ∈ stringsOfItems vs, t.Encodable) :
    (compactItems vs).Encodable := by
  match vs with
  | [] => exact List.forall_mem_nil _
  | [v] =>
    rw [compactItems]
    exact encodable_compact v fun t ht => h t (List.mem_append_left _ ht)
  | v :: w :: vs =>
    rw [compactItems]
    refine List.forall_mem_append.2
      ⟨encodable_compact v fun t ht => h t (List.mem_append_left _ ht), ?_⟩
    exact List.forall_mem_cons.2
      ⟨rfl, encodable_compactItems (w :: vs) fun t ht => h t (List.mem_append_right _ ht)⟩

theorem encodable_compactFields (fields : List (Text × Json))
    (h : ∀ t ∈ stringsOfFields fields, t.Encodable) : (compactFields fields).Encodable := by
  match fields with
  | [] => exact List.forall_mem_nil _
  | [(name, v)] =>
    obtain ⟨hname, h⟩ := List.forall_mem_cons.1 h
    rw [compactFields]
    refine List.forall_mem_append.2 ⟨encodable_compactText hname, ?_⟩
    exact List.forall_mem_cons.2
      ⟨rfl, encodable_compact v fun t ht => h t (List.mem_append_left _ ht)⟩
  | (name, v) :: f :: fields =>
    obtain ⟨hname, h⟩ := List.forall_mem_cons.1 h
    have hv : ∀ t ∈ v.strings, t.Encodable := fun t ht => h t (List.mem_append_left _ ht)
    rw [compactFields]
    refine List.forall_mem_append.2 ⟨List.forall_mem_append.2 ⟨encodable_compactText hname,
      List.forall_mem_cons.2 ⟨rfl, encodable_compact v hv⟩⟩, List.forall_mem_cons.2 ⟨rfl, ?_⟩⟩
    exact encodable_compactFields (f :: fields) fun t ht => h t (List.mem_append_right _ ht)

end

/-! ## Sending -/

variable {v : Json}

theorem characters_isOk {t : Text} (h : t.Encodable) : ∃ cs, Utf8.characters t = .ok cs := by
  obtain ⟨cs, hcs⟩ := encodable_iff.1 h
  exact ⟨cs, Utf8.characters_eq_ok_iff.2 hcs⟩

/-- **What can be encoded can be sent.** -/
theorem send_isOk (h : ∀ t ∈ v.strings, t.Encodable) : v.send.isOk := by
  have hchecked : ∀ ts : List Text, (∀ t ∈ ts, t.Encodable) →
      (ts.forM fun t => do let _ ← (Utf8.characters t).mapError Unsendable.text) = .ok () := by
    intro ts hts
    induction ts with
    | nil => rfl
    | cons t ts ih =>
      obtain ⟨ht, hts⟩ := List.forall_mem_cons.1 hts
      obtain ⟨cs, hcs⟩ := characters_isOk ht
      rw [List.forM, hcs]
      exact ih hts
  obtain ⟨cs, hcs⟩ := characters_isOk (encodable_compact v h)
  rw [send, hchecked _ h, hcs]
  rfl

/-- A report can be sent if its numbers are finite, too. -/
theorem sendReport_isOk (hfinite : v.shown.isFinite) (h : ∀ t ∈ v.shown.strings, t.Encodable) :
    v.sendReport.isOk := by
  obtain ⟨cs, hcs⟩ := characters_isOk (encodable_compact v.shown h)
  rw [sendReport, if_pos hfinite, hcs]
  rfl

end Json

end FeatureFlags

import FeatureFlags.Panel.Respond
import FeatureFlags.Proofs.Flag.Persistence

/-!
# Proofs/Panel/Bodies — bodies that were written are read

A body that was written as a document is read as that document (`document_of_readsAs`), so a flag
that can be kept in a file can be defined by a request too (`read_defining`).  What is read from a
body was decoded from some document (`exists_decode_of_read`).
-/

namespace FeatureFlags

namespace Panel

/-- **The document of a body** is the one that was written. -/
theorem document_of_readsAs {levels : Nat} {v w : Json} (h : Json.ReadsAs levels v w)
    (hlevels : levels ≤ Json.Parser.depthLimit) (method target : Text) :
    (⟨method, target, Utf8.encode v.render⟩ : Request).document = .ok w := by
  have hrender : v.render ≠ [] := by
    obtain ⟨c, t, hopens, -⟩ := Json.opens_render v
    intro hnil
    rw [hnil] at hopens
    cases hopens
  rw [Request.document, if_neg fun h => Utf8.encode_ne_nil hrender (List.isEmpty_iff.1 h),
    Json.textOf?_render]
  dsimp only
  rw [Json.parse_render h hlevels]

/-- What is read was decoded. -/
theorem exists_decode_of_read {α : Type} {decode : Json → Checked α} {r : Request} {a : α}
    (h : r.read decode = .ok a) : ∃ v, r.document = .ok v ∧ decode v = .ok a := by
  unfold Request.read at h
  cases hdocument : r.document with
  | error => rw [hdocument] at h; cases h
  | ok v =>
    rw [hdocument] at h
    exact ⟨v, rfl, mapError_eq_ok_iff.1 h⟩

/-- The request to define a flag. -/
def defining (f : Flag) : Request := ⟨"POST", "/api/features", Utf8.encode f.toJson.render⟩

theorem route_defining (f : Flag) :
    Route.find (defining f).method (Target.path (defining f).target) = .call .create := by
  change Route.find "POST" (Target.path "/api/features") = _
  decide +kernel

/-- **A flag that can be kept is the one that such a request defines.** -/
theorem read_defining {f : Flag} (h : f.Keepable) :
    (defining f).read (Flag.decode .modelAttributesType) = .ok f := by
  rw [Request.read, defining, document_of_readsAs (Json.readsAs_flag h) (by decide)]
  exact congrArg (Except.mapError _) (Flag.decode_toJson _ h.validName)

end Panel

end FeatureFlags

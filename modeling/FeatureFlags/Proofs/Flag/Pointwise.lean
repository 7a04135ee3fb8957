import FeatureFlags.Proofs.Flag.Failing
import FeatureFlags.Proofs.Flag.Validation
import FeatureFlags.Proofs.Json.Documents

/-!
# Proofs/Flag/Pointwise — a document is loaded item by item, and all or nothing

A document offers a value to be read as flags: itself, or the last field `features` of an object
(`Flag.Offers`).  Loading is meant to give one flag for each item that is offered, and if one item
is no flag to fail with the number of all issues (`Loading.Pointwise`).  It does so for every
document that is not nested too deep, and for no other (`Loading.load_pointwise_iff`).
-/

namespace FeatureFlags

namespace Json

/-- **Of several fields of a name the last one counts.** -/
theorem lookup?_setFields_reverse (name : Text) (fields fs : List (Text × Json)) :
    lookup? name (setFields fields fs) = (lookup? name fs.reverse).or (lookup? name fields) := by
  induction fs generalizing fields with
  | nil => rfl
  | cons f fs ih =>
    obtain ⟨key, v⟩ := f
    have hfield : lookup? name (setField key v fields)
        = (lookup? name [(key, v)]).or (lookup? name fields) := by
      by_cases h : key = name
      · rw [h, lookup?_setField_self, lookup?, if_pos rfl]
        rfl
      · rw [lookup?_setField_of_ne h, lookup?, if_neg h]
        rfl
    rw [List.reverse_cons, lookup?_append, Option.or_assoc, ← hfield]
    exact ih _

end Json

namespace Flag

variable {levels : Nat} {s : Text} {v xs : Json}

/-- **What a document offers** to be read as flags: itself, or of an object the last field
`features`, or nothing if there is none. -/
inductive Offers (levels : Nat) (s : Text) : Json → Prop
  | bare {v : Json} (h : Json.Document levels s v) (hv : ∀ fields, v ≠ .obj fields) :
      Offers levels s v
  | object {fs : List (Text × Json)} (h : Json.ObjectDocument levels s fs) :
      Offers levels s ((Json.lookup? "features" fs.reverse).getD (.arr []))

theorem listed_setFields (fs : List (Text × Json)) :
    listed (.obj (Json.setFields [] fs))
      = (Json.lookup? "features" fs.reverse).getD (.arr []) := by
  rw [listed, Json.lookup?_setFields_reverse, Json.lookup?, Option.or_none]

/-- **Every document offers something**, and just what is looked for in it. -/
theorem offers_iff : Offers levels s xs ↔ ∃ v, Json.Document levels s v ∧ listed v = xs := by
  constructor
  · intro h
    cases h with
    | bare h hv =>
      refine ⟨xs, h, ?_⟩
      cases xs with
      | obj fields => exact absurd rfl (hv fields)
      | _ => rfl
    | object h => exact ⟨_, h.document, listed_setFields _⟩
  · rintro ⟨v, h, rfl⟩
    cases v with
    | obj fields =>
      obtain ⟨fs, hfs, rfl⟩ := h.exists_object
      rw [listed_setFields]
      exact .object hfs
    | _ => exact .bare h nofun

/-- **The issues of what is offered**, those of each item; what is no list is wrong as a whole. -/
def issuesIn : Json → Nat
  | .arr vs => (vs.map issues).sum
  | _ => 1

theorem decodeList_eq_ok_iff_stated {fs : List Flag} :
    decodeList xs = .ok fs ↔ ∃ vs, xs = .arr vs ∧ List.Forall₂ Stated vs fs := by
  rw [decodeList_eq_ok_iff]
  simp only [decode_eq_ok_iff]

theorem count_decodeList (xs : Json) : (decodeList xs).count = issuesIn xs := by
  cases xs with
  | arr vs =>
    refine (Checked.count_itemsFrom (decode .modelType) 0 vs).trans ?_
    rw [funext (count_decode .modelType)]
    rfl
  | _ => rfl

end Flag

namespace Loading

open Json.Parser

variable {files : FileTree} {path : Path} {content : List UInt8} {cs : List Char} {levels : Nat}
  {document xs : Json} {fs : List Flag}

/-- **Pointwise, and all or nothing**: flags are given just if each item that is offered is one, and
they are those items in their order, none with a blank name.  Otherwise there is a fault that names
the path and the number of all issues. -/
structure Pointwise (path : Path) (xs : Json) (result : Except LoadFailure (List Flag)) : Prop where
  loaded : ∀ fs, result = .ok fs ↔ ∃ vs, xs = .arr vs ∧ List.Forall₂ Flag.Stated vs fs
  refused : (∀ fs, result ≠ .ok fs) → ∃ reason, result = .error (.unloadable path reason) ∧
    reason.message
      = "invalid feature data (" ++ Text.ofNat (Flag.issuesIn xs) ++ " errors)"
  named : ∀ fs, result = .ok fs → ∀ f ∈ fs, ∃ c ∈ f.name, c.isBlank = false

/-- **A file whose document is within the limit** is loaded pointwise. -/
theorem pointwise_of_document (hfile : files.find? path = .ok (some (.file content)))
    (hcs : Utf8.decode content = .ok cs)
    (h : Json.Document depthLimit (.ofChars (Lines.unify cs)) document) :
    Pointwise path (Flag.listed document) (load files path).result := by
  have hresult : (load files path).result = (Flag.decodeList (Flag.listed document)).mapError
      fun issues => .unloadable path (.invalid issues.length) :=
    (load_of_file hfile).trans (read_of_documented ⟨cs, hcs, h.parse⟩)
  rw [hresult]
  have hloaded (fs : List Flag) : (Flag.decodeList (Flag.listed document)).mapError
      (fun issues => LoadFailure.unloadable path (.invalid issues.length)) = .ok fs ↔
        ∃ vs, Flag.listed document = .arr vs ∧ List.Forall₂ Flag.Stated vs fs :=
    mapError_eq_ok_iff.trans Flag.decodeList_eq_ok_iff_stated
  refine ⟨hloaded, fun hno => ?_, fun fs hfs f hf => ?_⟩
  · rw [← Flag.count_decodeList]
    cases hdecode : Flag.decodeList (Flag.listed document) with
    | error issues => exact ⟨.invalid issues.length, rfl, rfl⟩
    | ok fs =>
      rw [hdecode] at hno
      exact absurd rfl (hno fs)
  · have hlisted := Flag.ofDocument_eq_ok_iff.1 (mapError_eq_ok_iff.1 hfs)
    exact Flag.validName_iff.1 (hlisted.validName f hf)

/-- **Loading is pointwise, and all or nothing**, just for the documents within the limit of
nesting: a document that needs more levels is refused for this, whatever its items are. -/
theorem load_pointwise_iff (hfile : files.find? path = .ok (some (.file content)))
    (hcs : Utf8.decode content = .ok cs)
    (hxs : Flag.Offers levels (.ofChars (Lines.unify cs)) xs) :
    Pointwise path xs (load files path).result ↔
      ∃ document, Json.Document depthLimit (.ofChars (Lines.unify cs)) document := by
  obtain ⟨v, hv, rfl⟩ := Flag.offers_iff.1 hxs
  obtain hwithin | htaxing := hv.within
  · exact iff_of_true (pointwise_of_document hfile hcs hwithin) ⟨v, hwithin⟩
  obtain ⟨e, he, hparse⟩ := Json.parse_eq_limit_iff.2 htaxing
  have hresult := (load_of_file hfile).trans (read_of_refused hcs hparse)
  refine iff_of_false (fun hpointwise => ?_) ?_
  · rw [hresult] at hpointwise
    obtain ⟨reason, hreason, -⟩ := hpointwise.refused nofun
    cases e with
    | malformed => exact he
    | overlong | tooDeep => cases hreason
  · rintro ⟨document, hdocument⟩
    cases hparse.symm.trans hdocument.parse

/-! ## A document with issues, and one that is nested too deep -/

/-- A file with a written document. -/
def documentFile (v : Json) : FileTree := [(.ofText "f.json", .file (Utf8.encode v.render))]

theorem find?_documentFile (v : Json) :
    (documentFile v).find? (.ofText "f.json") = .ok (some (.file (Utf8.encode v.render))) := rfl

/-- A condition with one rule that is a string among three. -/
def flawedCondition : Json := .obj [("supported_levels", .arr [.null, .str "<5", .bool true])]

/-- An item that is a flag. -/
def soundItem : Json := .obj [("name", .str "a"), ("enabled", .str "on")]

/-- An item with a blank name, no state and that condition. -/
def flawedItem : Json := .obj [("name", .str " "), ("condition", flawedCondition)]

/-- Two fields `features`, of which the last one lists both items. -/
def flawedDocument : Json :=
  .obj [("features", .null), ("features", .arr [soundItem, flawedItem])]

theorem readsAs_flawedItem : Json.ReadsAs 3 flawedItem flawedItem := by
  have hrules := Json.readsAs_arr (.cons Json.readsAs_null (.cons (Json.readsAs_str "<5")
    (.cons (Json.readsAs_bool true) .nil)))
  have hcondition : Json.ReadsAs 2 flawedCondition flawedCondition :=
    Json.readsAs_obj (.cons (Json.fieldReadsAs rfl hrules) .nil)
  exact Json.readsAs_obj (.cons
    (Json.fieldReadsAs rfl ((Json.readsAs_str " ").mono (by decide)))
    (.cons (Json.fieldReadsAs rfl hcondition) .nil))

theorem load_pointwise_flawed :
    let result := (load (documentFile flawedDocument) (.ofText "f.json")).result
    (∀ fs, result ≠ .ok fs) ∧ ∃ reason, result = .error (.unloadable (.ofText "f.json") reason) ∧
      reason.message = "invalid feature data (4 errors)" := by
  intro result
  have hflag : Json.ReadsAs 1 soundItem soundItem :=
    Json.readsAs_obj (.cons (Json.fieldReadsAs rfl (Json.readsAs_str "a"))
      (.cons (Json.fieldReadsAs rfl (Json.readsAs_str "on")) .nil))
  have hlist := Json.readsAs_arr (.cons (hflag.mono (by decide)) (.cons readsAs_flawedItem .nil))
  have hreads : Json.ReadsAs 5 flawedDocument (.obj [("features", .arr [soundItem, flawedItem])]) :=
    Json.readsAs_obj (.cons (Json.fieldReadsAs rfl (Json.readsAs_null.mono (Nat.zero_le _)))
      (.cons (Json.fieldReadsAs rfl hlist) .nil))
  have hdocument : Json.Document depthLimit (.ofChars flawedDocument.render) _ :=
    Json.document_render (hreads.mono (by decide))
  rw [← Json.unify_render] at hdocument
  have hpointwise := (load_pointwise_iff (find?_documentFile flawedDocument)
    (Json.decode_encode_render flawedDocument)
    (Flag.offers_iff.2 ⟨_, hdocument, rfl⟩)).2 ⟨_, hdocument⟩
  have hno (fs : List Flag) : result ≠ .ok fs := by
    intro hfs
    obtain ⟨vs, hvs, hstated⟩ := (hpointwise.loaded fs).1 hfs
    cases hvs
    obtain ⟨f, _, -, hrest, -⟩ := List.forall₂_cons_left_iff.1 hstated
    obtain ⟨g, _, ⟨_, ⟨⟩, -, ⟨w, hw, -⟩, -⟩, -⟩ := List.forall₂_cons_left_iff.1 hrest
    cases hw
  obtain ⟨reason, hreason, hmessage⟩ := hpointwise.refused hno
  exact ⟨hno, reason, hreason, hmessage.trans (by decide +kernel)⟩

/-- **A document that is nested too deep**: it offers itself, which is no list of flags, but it is
refused without a fault. -/
theorem load_not_pointwise_nested :
    let deep := Json.nested 2999
    let result := (load (documentFile deep) (.ofText "f.json")).result
    (∃ levels, Flag.Offers levels (.ofChars (Lines.unify deep.render)) deep) ∧
      (∃ failure, result = .error failure ∧ failure.fault? = none) ∧
      ¬ Pointwise (.ofText "f.json") deep result := by
  intro deep result
  have hdocument : Json.Document 3000 (.ofChars (Lines.unify deep.render)) deep := by
    rw [Json.unify_render]
    exact Json.document_render (Json.readsAs_nested 2999)
  have hbeyond : Json.Taxing (.ofChars (Lines.unify deep.render)) := by
    refine ⟨hdocument.1, ?_⟩
    rw [Json.unify_render, (Json.opens_render deep).skip]
    have h : Json.Grammar.ValueBeyond depthLimit (Text.ofChars deep.render ++ []) :=
      Json.beyond_nested (by decide) []
    rwa [List.append_nil] at h
  obtain ⟨failure, hfailure, hfault⟩ := exists_failure_of_escapes
    (.taxing (find?_documentFile deep) ⟨_, Json.decode_encode_render deep, hbeyond⟩)
  have hresult : result = .error failure := hfailure
  refine ⟨⟨3000, .bare hdocument ?_⟩, ⟨failure, hresult, hfault⟩, fun hpointwise => ?_⟩
  · exact nofun
  · rw [hresult] at hpointwise
    obtain ⟨reason, hreason, -⟩ := hpointwise.refused nofun
    cases hreason
    cases hfault

end Loading

end FeatureFlags

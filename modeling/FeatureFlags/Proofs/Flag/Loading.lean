import FeatureFlags.Flag.Loading
import FeatureFlags.Proofs.Checked

/-!
# Proofs/Flag/Loading — what loading gives

Loading gives the flags of a file all together or none of them: each item of the document has to be
a flag, and gives one in its place (`load_eq_ok_iff`).
-/

namespace FeatureFlags

namespace Flag

/-- **The items of a document are flags**, one for each item and in their order. -/
def Listed (document : Json) (fs : List Flag) : Prop :=
  ∃ vs, listed document = .arr vs ∧ List.Forall₂ (fun v f => decode .modelType v = .ok f) vs fs

theorem decodeList_eq_ok_iff {xs : Json} {fs : List Flag} : decodeList xs = .ok fs ↔
    ∃ vs, xs = .arr vs ∧ List.Forall₂ (fun v f => decode .modelType v = .ok f) vs fs := by
  cases xs with
  | arr vs =>
    refine Checked.itemsFrom_eq_ok_iff.trans ⟨fun h => ⟨vs, rfl, h⟩, ?_⟩
    rintro ⟨_, ⟨⟩, h⟩
    exact h
  | _ => exact iff_of_false nofun (by rintro ⟨_, ⟨⟩, _⟩)

theorem ofDocument_eq_ok_iff {document : Json} {fs : List Flag} :
    ofDocument document = .ok fs ↔ Listed document fs := decodeList_eq_ok_iff

/-- What is decoded has a valid name. -/
theorem validName_of_decode {notObject : IssueKind} {v : Json} {f : Flag}
    (h : decode notObject v = .ok f) : validName f.name := by
  cases v with
  | obj fields =>
    obtain ⟨⟨name, _⟩, hparts, rfl⟩ := map_eq_ok_iff.1 h
    have hname := Checked.within_eq_ok_iff.1 (Checked.both_eq_ok_iff.1 hparts).1
    cases hlookup : Json.lookup? "name" fields with
    | none => rw [hlookup] at hname; cases hname
    | some w =>
      rw [hlookup] at hname
      exact validName_of_decodeName hname
  | _ => cases h

theorem Listed.validName {document : Json} {fs : List Flag} (h : Listed document fs) :
    ∀ f ∈ fs, validName f.name := by
  obtain ⟨vs, -, h⟩ := h
  induction h with
  | nil => exact fun f hf => absurd hf List.not_mem_nil
  | cons hf _ ih => exact List.forall_mem_cons.2 ⟨validName_of_decode hf, ih⟩

end Flag

/-! ## Files -/

namespace Loading

variable {files : FileTree} {path : Path} {fs : List Flag} {content : List UInt8}

/-- **The document of a file**: its octets are UTF-8, and its lines are a document. -/
def Documented (content : List UInt8) (document : Json) : Prop :=
  ∃ cs, Utf8.decode content = .ok cs ∧ Json.parse (.ofChars (Lines.unify cs)) = .ok document

/-- A file with a document gives what the document does. -/
theorem read_of_documented {document : Json} (h : Documented content document) :
    read path content = (Flag.ofDocument document).mapError fun issues =>
      .unloadable path (.invalid issues.length) := by
  obtain ⟨cs, hcs, hparse⟩ := h
  unfold read
  rw [hcs]
  dsimp only
  rw [hparse]
  dsimp only
  cases Flag.ofDocument document <;> rfl

/-- A file that gives flags has a document. -/
theorem exists_documented (h : read path content = .ok fs) :
    ∃ document, Documented content document := by
  unfold read at h
  cases hcs : Utf8.decode content with
  | error => rw [hcs] at h; cases h
  | ok cs =>
    rw [hcs] at h
    dsimp only at h
    cases hparse : Json.parse (.ofChars (Lines.unify cs)) with
    | error e => rw [hparse] at h; cases e <;> cases h
    | ok document => exact ⟨document, cs, hcs, hparse⟩

theorem read_eq_ok_iff : read path content = .ok fs ↔
    ∃ document, Documented content document ∧ Flag.Listed document fs := by
  have hdocument {document : Json} (hd : Documented content document) :
      read path content = .ok fs ↔ Flag.Listed document fs := by
    rw [read_of_documented hd, mapError_eq_ok_iff, Flag.ofDocument_eq_ok_iff]
  constructor
  · intro h
    obtain ⟨document, hd⟩ := exists_documented h
    exact ⟨document, hd, (hdocument hd).1 h⟩
  · rintro ⟨document, hd, hlisted⟩
    exact (hdocument hd).2 hlisted

theorem load_of_file (h : files.find? path = .ok (some (.file content))) :
    (load files path).result = read path content := by
  unfold load
  rw [h]
  dsimp only
  cases read path content <;> rfl

/-- **What a path gives**: where nothing is there are no flags, and a file gives those of its
document. -/
inductive Gives (files : FileTree) (path : Path) : List Flag → Prop
  | nothing (h : files.find? path = .ok none) : Gives files path []
  | listed {content : List UInt8} {document : Json} {fs : List Flag}
      (h : files.find? path = .ok (some (.file content))) (hd : Documented content document)
      (hfs : Flag.Listed document fs) : Gives files path fs

/-- **Loading gives all flags of a file or none**: it fails if one item of the document is no flag,
wherever that item stands. -/
theorem load_eq_ok_iff : (load files path).result = .ok fs ↔ Gives files path fs := by
  constructor
  · intro h
    cases hfind : files.find? path with
    | error => rw [load, hfind] at h; cases h
    | ok entry =>
      cases entry with
      | none =>
        rw [load, hfind] at h
        cases h
        exact .nothing hfind
      | some entry =>
        cases entry with
        | directory => rw [load, hfind] at h; cases h
        | file content =>
          rw [load_of_file hfind] at h
          obtain ⟨document, hd, hfs⟩ := read_eq_ok_iff.1 h
          exact .listed hfind hd hfs
  · intro h
    cases h with
    | nothing h => rw [load, h]
    | listed h hd hfs => rw [load_of_file h, read_eq_ok_iff.2 ⟨_, hd, hfs⟩]

end Loading

end FeatureFlags

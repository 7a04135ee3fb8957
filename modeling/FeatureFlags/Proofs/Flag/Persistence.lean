import FeatureFlags.Proofs.Checked
import FeatureFlags.Proofs.Json.ReadBack
import FeatureFlags.Switchboard.Perform
import FeatureFlags.Switchboard.Start

/-!
# Proofs/Flag/Persistence — flags that are kept in a file come back

A flag that was written as a document is decoded as that flag (`decode_toJson`).  So a file that
holds the documents of flags, bare or as the field `features` among others, gives the flags back in
their order, and a switchboard that starts with this file has just these flags
(`load_persisted`).
-/

namespace FeatureFlags

/-! ## Decoding what was written -/

theorem Checked.itemsFrom_map {α β : Type} {check : α → Checked β} {write : β → α} {bs : List β}
    (h : ∀ b ∈ bs, check (write b) = .ok b) (i : Nat) :
    Checked.itemsFrom check i (bs.map write) = .ok bs :=
  Checked.itemsFrom_eq_ok_iff.2 (List.forall₂_map_left_iff.2 (List.forall₂_same.2 h))

theorem Reading.strings_texts (ts : List Text) : Reading.strings (.texts ts) = .ok ts :=
  Checked.itemsFrom_map (fun t _ => (rfl : Reading.string (.str t) = .ok t)) 0

theorem Condition.decode_toJson (notObject : IssueKind) (c : Condition) :
    Condition.decode notObject c.toJson = .ok c := by
  change (Checked.both (.within (.field "supported_levels") (Reading.strings (.texts c.levels)))
    (.within (.field "supported_versions") (Reading.strings (.texts c.versions)))).map _ = _
  rw [Reading.strings_texts, Reading.strings_texts]
  rfl

/-- **A flag is decoded as it was written**, if its name is valid. -/
theorem Flag.decode_toJson (notObject : IssueKind) {f : Flag} (h : Flag.validName f.name) :
    Flag.decode notObject f.toJson = .ok f := by
  have hname : Flag.decodeName (.str f.name) = .ok f.name := by
    change (if Flag.validName f.name then _ else _) = _
    rw [if_pos h]
  change (Checked.both (.within (.field "name") (Flag.decodeName (.str f.name)))
    (Checked.both (.within (.field "enabled") (Reading.truth (.bool f.enabled)))
      (.within (.field "condition") (Condition.decode notObject f.condition.toJson)))).map _ = _
  rw [hname, Condition.decode_toJson]
  rfl

namespace Flag

/-- All texts of a flag. -/
def texts (f : Flag) : List Text := f.name :: (f.condition.levels ++ f.condition.versions)

/-- **A flag that a file can keep**: its name is valid, and in no text of it stand two surrogates
that would be read as one character. -/
structure Keepable (f : Flag) : Prop where
  validName : Flag.validName f.name
  unpaired : ∀ t ∈ f.texts, t.pairSurrogates = t

/-- Texts of characters alone can be kept. -/
theorem Keepable.of_chars {f : Flag} (hname : Flag.validName f.name)
    (h : ∀ t ∈ f.texts, ∀ c ∈ t, c.isSurrogate = false) : f.Keepable :=
  ⟨hname, fun t ht => Text.pairSurrogates_of_chars (h t ht)⟩

/-- The documents of flags as one. -/
def listToJson (fs : List Flag) : Json := .arr (fs.map toJson)

theorem decodeList_listToJson {fs : List Flag} (h : ∀ f ∈ fs, f.Keepable) :
    decodeList (listToJson fs) = .ok fs :=
  Checked.itemsFrom_map (fun f hf => decode_toJson _ (h f hf).validName) 0

end Flag

/-! ## Reading back what was written -/

namespace Json

theorem readsAs_texts {ts : List Text} (h : ∀ t ∈ ts, t.pairSurrogates = t) :
    ReadsAs 1 (.texts ts) (.texts ts) := by
  refine readsAs_arr ?_
  induction ts with
  | nil => exact .nil
  | cons t ts ih =>
    obtain ⟨ht, hts⟩ := List.forall_mem_cons.1 h
    have hstr := readsAs_str t
    rw [ht] at hstr
    exact .cons hstr (ih hts)

/-- A field with a name of its own. -/
theorem fieldReadsAs {levels : Nat} {name : Text} {v w : Json} (hname : name.pairSurrogates = name)
    (h : ReadsAs levels v w) : FieldReadsAs levels (name, v) (name, w) := ⟨hname.symm, h⟩

theorem readsAs_condition {c : Condition} (h : ∀ t ∈ c.levels ++ c.versions, t.pairSurrogates = t) :
    ReadsAs 2 c.toJson c.toJson := by
  have hlevels := readsAs_texts fun t ht => h t (List.mem_append_left _ ht)
  have hversions := readsAs_texts fun t ht => h t (List.mem_append_right _ ht)
  exact readsAs_obj (.cons (fieldReadsAs rfl hlevels) (.cons (fieldReadsAs rfl hversions) .nil))

/-- **A flag that can be kept** is read as it was written. -/
theorem readsAs_flag {f : Flag} (h : f.Keepable) : ReadsAs 3 f.toJson f.toJson := by
  obtain ⟨hname, hcondition⟩ := List.forall_mem_cons.1 h.unpaired
  have hstr := readsAs_str f.name
  rw [hname] at hstr
  refine readsAs_obj (.cons (fieldReadsAs rfl (hstr.mono (by decide))) (.cons (fieldReadsAs rfl
    ((readsAs_bool f.enabled).mono (by decide))) (.cons (fieldReadsAs rfl ?_) .nil)))
  exact readsAs_condition hcondition

theorem readsAs_flags {fs : List Flag} (h : ∀ f ∈ fs, f.Keepable) :
    ReadsAs 4 (Flag.listToJson fs) (Flag.listToJson fs) := by
  refine readsAs_arr ?_
  induction fs with
  | nil => exact .nil
  | cons f fs ih =>
    obtain ⟨hf, hfs⟩ := List.forall_mem_cons.1 h
    exact .cons (readsAs_flag hf) (ih hfs)

/-! ## Fields of an object -/

theorem lookup?_setField_of_ne {name key : Text} (h : key ≠ name) (v : Json)
    (fields : List (Text × Json)) : lookup? name (setField key v fields) = lookup? name fields := by
  induction fields with
  | nil => exact if_neg h
  | cons f fields ih =>
    obtain ⟨k, w⟩ := f
    by_cases hk : k = key
    · rw [setField, if_pos hk, lookup?, lookup?, if_neg (hk ▸ h), if_neg (hk ▸ h)]
    · rw [setField, if_neg hk, lookup?, lookup?, ih]

/-- Fields of other names do not touch a field. -/
theorem lookup?_setFields_of_ne {name : Text} {gs : List (Text × Json)} (h : ∀ g ∈ gs, g.1 ≠ name)
    (fields : List (Text × Json)) : lookup? name (setFields fields gs) = lookup? name fields := by
  induction gs generalizing fields with
  | nil => rfl
  | cons g gs ih =>
    obtain ⟨hg, hgs⟩ := List.forall_mem_cons.1 h
    exact (ih hgs _).trans (lookup?_setField_of_ne hg g.2 fields)

/-- **A field is found among others**, wherever it was written. -/
theorem lookup?_setFields {name : Text} {v : Json} {before after : List (Text × Json)}
    (h : ∀ g ∈ after, g.1 ≠ name) :
    lookup? name (setFields [] (before ++ (name, v) :: after)) = some v := by
  rw [setFields, List.foldl_append, List.foldl_cons]
  exact (lookup?_setFields_of_ne h _).trans (lookup?_setField_self name v _)

/-- Fields within the limits are read back. -/
theorem exists_fieldsReadAs {levels : Nat} {fields : List (Text × Json)}
    (h : ∀ f ∈ fields, f.2.isShort ∧ f.2.nesting ≤ levels) :
    ∃ gs, List.Forall₂ (FieldReadsAs levels) fields gs := by
  induction fields with
  | nil => exact ⟨[], .nil⟩
  | cons f fields ih =>
    obtain ⟨⟨hshort, hnesting⟩, hfields⟩ := List.forall_mem_cons.1 h
    obtain ⟨w, hw⟩ := exists_readsAs f.2 hshort
    obtain ⟨gs, hgs⟩ := ih hfields
    exact ⟨(f.1.pairSurrogates, w) :: gs, .cons ⟨rfl, hw.mono hnesting⟩ hgs⟩

/-- A name within U+FFFF is read from no other name. -/
theorem name_ne_of_fieldsReadAs {levels : Nat} {fields gs : List (Text × Json)} {name : Text}
    (hname : ∀ c ∈ name, c.toNat < 0x10000) (h : List.Forall₂ (FieldReadsAs levels) fields gs)
    (hfields : ∀ f ∈ fields, f.1 ≠ name) : ∀ g ∈ gs, g.1 ≠ name := by
  induction h with
  | nil => exact fun g hg => absurd hg List.not_mem_nil
  | @cons f g fields gs hf _ ih =>
    obtain ⟨hne, hfields⟩ := List.forall_mem_cons.1 hfields
    refine List.forall_mem_cons.2 ⟨fun heq => ?_, ih hfields⟩
    have hpaired : f.1.pairSurrogates = name := hf.1.symm.trans heq
    rw [Text.pairSurrogates_eq_self (by rwa [hpaired])] at hpaired
    exact hne hpaired

end Json

/-! ## Files of flags -/

namespace Flag

variable {fs : List Flag} {document : Json}

/-- The field that flags are kept in. -/
def field (fs : List Flag) : Text × Json := ("features", listToJson fs)

/-- **A document that holds flags**: their documents bare, or as the field `features` of an object.
What else is in the object has to be within the limits on digits and on nesting, which hold for
writing as they do for reading. -/
inductive Holds (fs : List Flag) : Json → Prop
  | bare : Holds fs (listToJson fs)
  | wrapped {before after : List (Text × Json)}
      (hothers : ∀ f ∈ before ++ after, f.1 ≠ "features" ∧ f.2.isShort ∧
        f.2.nesting < Json.Parser.depthLimit) :
      Holds fs (.obj (before ++ field fs :: after))

/-- **What is read from a document that holds flags holds them too.** -/
theorem Holds.exists_parse (h : Holds fs document) (hfs : ∀ f ∈ fs, f.Keepable) :
    ∃ v, Json.parse (Text.ofChars document.render) = .ok v ∧ listed v = listToJson fs := by
  have hflags := Json.readsAs_flags hfs
  cases h with
  | bare => exact ⟨_, Json.parse_render hflags (by decide), rfl⟩
  | @wrapped before after hothers =>
    -- the object is one level of those that are allowed
    have hlevel : ∀ f ∈ before ++ after, f.2.isShort ∧ f.2.nesting ≤ Json.Parser.depthLimit - 1 :=
      fun f hf => ⟨(hothers f hf).2.1, Nat.le_sub_one_of_lt (hothers f hf).2.2⟩
    obtain ⟨hbefore, hafter⟩ := List.forall_mem_append.1 hlevel
    obtain ⟨bs, hbs⟩ := Json.exists_fieldsReadAs hbefore
    obtain ⟨as, has⟩ := Json.exists_fieldsReadAs hafter
    have hfeatures : Json.FieldReadsAs (Json.Parser.depthLimit - 1) (field fs) (field fs) :=
      Json.fieldReadsAs rfl (hflags.mono (by decide))
    have hread := Json.readsAs_obj (List.rel_append hbs (.cons hfeatures has))
    refine ⟨_, Json.parse_render hread (by decide), ?_⟩
    have hne := Json.name_ne_of_fieldsReadAs (by decide) has fun f hf =>
      (hothers f (List.mem_append_right _ hf)).1
    exact congrArg (Option.getD · (.arr [])) (Json.lookup?_setFields hne)

end Flag

open Switchboard in
/-- **Flags that are kept in a file come back.**  Loading gives just these flags, in their order,
and so does a switchboard that starts with the file and nothing else when it is asked for all
flags. -/
theorem load_persisted {fs : List Flag} {document : Json} {files : FileTree} {path : Path}
    (hfs : ∀ f ∈ fs, f.Keepable) (hdocument : Flag.Holds fs document)
    (hfile : files.find? path = .ok (some (.file (Utf8.encode document.render)))) :
    (Loading.load files path).result = .ok fs ∧
      ∀ settings : Settings, settings.cacheEnabled → settings.cachePath = path →
        let s := (start settings (.file files) []).switchboard
        s.roster = fs ∧ ((perform (.query .all)).run s).1 = .ok (.flags fs) := by
  obtain ⟨v, hparse, hlisted⟩ := hdocument.exists_parse hfs
  have hdecode : Flag.ofDocument v = .ok fs := by
    rw [Flag.ofDocument, hlisted, Flag.decodeList_listToJson hfs]
  have hread : Loading.read path (Utf8.encode document.render) = .ok fs := by
    rw [Loading.read, Json.decode_encode_render]
    dsimp only
    rw [Json.unify_render, hparse]
    dsimp only
    rw [hdecode]
  have hload : (Loading.load files path).result = .ok fs := by
    rw [Loading.load, hfile]
    dsimp only
    rw [hread]
  refine ⟨hload, fun settings henabled hpath => ?_⟩
  have hroster : (start settings (.file files) []).switchboard.roster = fs := by
    subst hpath
    rw [start_of_enabled henabled, Source.load]
    dsimp only
    rw [hload]
    rfl
  exact ⟨hroster, congrArg (Except.ok <| Answer.flags ·) hroster⟩

/-! ## A file with other fields -/

namespace Flag

/-- Two flags of one name, one of them with a rule beyond U+FFFF. -/
def twins : List Flag := [⟨"a", true, ⟨[">=29"], ["1.0-😀"]⟩⟩, ⟨"a", false, .unrestricted⟩]

/-- A field before the flags. -/
def editionField : Text × Json := ("edition", .int 2)

/-- A field behind the flags. -/
def noteField : Text × Json := ("é", .arr [.null, .float (.ofRatio true 1 3)])

/-- The twins among other fields. -/
def twinsDocument : Json := .obj ([editionField] ++ field twins :: [noteField])

/-- A file of the twins. -/
def twinsFiles : FileTree :=
  [(.ofText "flag_cache.json", .file (Utf8.encode twinsDocument.render))]

/-- Settings that ask for the file. -/
def twinsSettings : Settings :=
  ⟨"FlagGate", "0.1.0", false, .info, true, .ofText "flag_cache.json", none, none,
    .ofRatio false 1 1⟩

end Flag

open Switchboard in
theorem load_persisted_twins :
    (Loading.load Flag.twinsFiles (.ofText "flag_cache.json")).result = .ok Flag.twins ∧
      (start Flag.twinsSettings (.file Flag.twinsFiles) []).switchboard.roster = Flag.twins := by
  have hfs : ∀ f ∈ Flag.twins, f.Keepable := by
    refine List.forall_mem_cons.2 ⟨.of_chars (by decide) (by decide), ?_⟩
    exact List.forall_mem_singleton.2 (.of_chars (by decide) (by decide))
  have hdocument : Flag.Holds Flag.twins Flag.twinsDocument := by
    refine .wrapped (List.forall_mem_cons.2 ⟨⟨by decide, by decide +kernel, by decide +kernel⟩, ?_⟩)
    exact List.forall_mem_singleton.2 ⟨by decide, by decide +kernel, by decide +kernel⟩
  have hfile : Flag.twinsFiles.find? (.ofText "flag_cache.json")
      = .ok (some (.file (Utf8.encode Flag.twinsDocument.render))) := rfl
  obtain ⟨hload, hstart⟩ := load_persisted hfs hdocument hfile
  exact ⟨hload, (hstart Flag.twinsSettings rfl rfl).1⟩

end FeatureFlags

import FeatureFlags.Proofs.Text.Small
import FeatureFlags.Version

/-!
# Proofs/Version/Spelling — how well-formed versions are written, and what is read off them

A well-formed version is dotted digits and perhaps a tag behind a hyphen (`Spells`):

    version  ::=  digits (. digits)*  [- tag]

Four readings take such a text apart, trimming and lower-casing it, cutting it at its first hyphen,
splitting it at its dots and converting each part.  They agree with the way it is written
(`ofText_of_spells`): the text is already normal, the dots and the hyphen are where they should be,
and each part counts for the number its digits denote (`worth`).
-/

namespace FeatureFlags

open Numeral

namespace Version

variable {t main tag : Text} {parts : List (List Nat)} {ds : List Nat} {tag? : Option Text}
  {c : CodePoint}

/-! ## The grammar -/

/-- **Dotted digits**, and the values of the digits between the dots. -/
inductive Dotted : Text → List (List Nat) → Prop
  | last {t : Text} {ds : List Nat} (h : Digits t ds) : Dotted t [ds]
  | dot {t u : Text} {ds : List Nat} {parts : List (List Nat)} (h : Digits t ds)
      (hu : Dotted u parts) : Dotted (t ++ .scalar '.' :: u) (ds :: parts)

/-- **A well-formed version**, the digits of its parts and its tag. -/
inductive Spells : Text → List (List Nat) → Option Text → Prop
  | release {t : Text} {parts : List (List Nat)} (h : Dotted t parts) : Spells t parts none
  | tagged {main tag : Text} {parts : List (List Nat)} (h : Dotted main parts)
      (ht : isTag tag = true) : Spells (main ++ .scalar '-' :: tag) parts (some tag)

theorem exists_digits_of_isNumber (h : isNumber t = true) : ∃ ds, Digits t ds := by
  rw [isNumber, Bool.and_eq_true, List.all_eq_true] at h
  refine ⟨t.map fun c => c.digit?.getD 0, by simpa using h.1, ?_⟩
  rw [List.map_map]
  refine List.map_congr_left fun c hc => ?_
  obtain ⟨d, hd⟩ := Option.isSome_iff_exists.1 (h.2 c hc)
  rw [Function.comp_apply, hd]
  rfl

/-- Dotted numbers are dotted digits. -/
theorem exists_dotted_of_isDotted (h : isDotted t = true) : ∃ parts, Dotted t parts := by
  induction t using Text.pieceInduction (.scalar '.') with
  | last t ht =>
    rw [isDotted, Text.splitOn_of_notMem ht, List.all_cons, Bool.and_eq_true] at h
    obtain ⟨ds, hds⟩ := exists_digits_of_isNumber h.1
    exact ⟨[ds], .last hds⟩
  | cut left right hleft ih =>
    rw [isDotted, Text.splitOn_append_cons hleft, List.all_cons, Bool.and_eq_true] at h
    obtain ⟨ds, hds⟩ := exists_digits_of_isNumber h.1
    obtain ⟨parts, hparts⟩ := ih h.2
    exact ⟨ds :: parts, .dot hds hparts⟩

/-- **Every well-formed version is written so.** -/
theorem exists_spells_of_isVersion (h : isVersion t = true) : ∃ parts tag?, Spells t parts tag? := by
  rw [isVersion] at h
  by_cases hhyphen : .scalar '-' ∈ t
  · obtain ⟨main, tag, rfl, hmain⟩ := List.eq_append_cons_of_mem hhyphen
    rw [Text.cut?_append_cons hmain] at h
    obtain ⟨hdotted, htag⟩ := Bool.and_eq_true_iff.1 h
    obtain ⟨parts, hparts⟩ := exists_dotted_of_isDotted hdotted
    exact ⟨parts, some tag, .tagged hparts htag⟩
  · rw [Text.cut?_of_notMem hhyphen] at h
    obtain ⟨parts, hparts⟩ := exists_dotted_of_isDotted h
    exact ⟨parts, none, .release hparts⟩

/-! ## Its code points -/

/-- A code point of dotted digits. -/
theorem Dotted.mem (h : Dotted t parts) (hc : c ∈ t) :
    c = .scalar '.' ∨ ∃ d, c.digit? = some d := by
  induction h with
  | last h => exact .inr (h.digit? hc)
  | dot h _ ih =>
    obtain hc | hc := List.mem_append.1 hc
    · exact .inr (h.digit? hc)
    · obtain rfl | hc := List.mem_cons.1 hc
      · exact .inl rfl
      · exact ih hc

theorem Dotted.hyphen_notMem (h : Dotted t parts) : .scalar '-' ∉ t := by
  intro hc
  obtain heq | ⟨d, hd⟩ := h.mem hc
  · cases heq
  · exact CodePoint.ne_of_digit? hd (by decide) rfl

/-- **A code point that is kept by normalizing**: it is no blank, and small. -/
def Kept (c : CodePoint) : Prop := c.isBlank = false ∧ c.Small

theorem kept_of_digit? {d : Nat} (h : c.digit? = some d) : Kept c :=
  ⟨CodePoint.isBlank_of_digit? h, CodePoint.small_of_digit? h⟩

theorem inTag_of_isTag (h : isTag tag = true) (hc : c ∈ tag) : inTag c = true := by
  cases tag with
  | nil => cases hc
  | cons d tag =>
    obtain ⟨hd, htag⟩ := Bool.and_eq_true_iff.1 h
    obtain rfl | hc := List.mem_cons.1 hc
    · rw [inTag, hd, Bool.true_or, Bool.true_or]
    · exact List.all_eq_true.1 htag c hc

/-- The code points of a tag are within the digits and small letters of ASCII, or a dot or a
hyphen. -/
theorem toNat_of_inTag (h : inTag c = true) :
    0x2D ≤ c.toNat ∧ c.toNat < 0x80 ∧ ¬ (0x41 ≤ c.toNat ∧ c.toNat ≤ 0x5A) := by
  rw [inTag, Bool.or_eq_true, Bool.or_eq_true, decide_eq_true_eq, decide_eq_true_eq] at h
  obtain (h | rfl) | rfl := h
  · cases c with
    | surrogate i => cases h
    | scalar c =>
      simp only [opensTag, Bool.or_eq_true, Bool.and_eq_true, decide_eq_true_eq, Char.le_def,
        UInt32.le_iff_toNat_le] at h
      change 0x2D ≤ c.toNat ∧ c.toNat < 0x80 ∧ ¬ (0x41 ≤ c.toNat ∧ c.toNat ≤ 0x5A)
      simp only [Char.reduceVal, UInt32.reduceToNat, Char.toNat_val] at h
      omega
  · decide
  · decide

theorem kept_of_inTag (h : inTag c = true) : Kept c := by
  obtain ⟨hlow, hhigh, hcapital⟩ := toNat_of_inTag h
  have hblank : ∀ n < 0x80, 0x2D ≤ n →
      (Range.mem CodePoint.whiteSpaceRanges n || (0x1C ≤ n && n ≤ 0x1F)) = false := by
    decide +kernel
  exact ⟨hblank c.toNat hhigh hlow, CodePoint.small_of_ascii hhigh hcapital⟩

theorem Spells.kept (h : Spells t parts tag?) : ∀ c ∈ t, Kept c := by
  have hmain {u : Text} (hu : Dotted u parts) : ∀ c ∈ u, Kept c := by
    intro c hc
    obtain rfl | ⟨d, hd⟩ := hu.mem hc
    · exact kept_of_inTag (by decide)
    · exact kept_of_digit? hd
  cases h with
  | release h => exact hmain h
  | tagged h ht =>
    refine List.forall_mem_append.2 ⟨hmain h, List.forall_mem_cons.2 ⟨kept_of_inTag rfl, ?_⟩⟩
    exact fun c hc => kept_of_inTag (inTag_of_isTag ht hc)

/-- A text of such code points is normal. -/
theorem normalize_of_kept (h : ∀ c ∈ t, Kept c) : normalize t = t := by
  have htrim : t.trim = t := Text.dropAround_of_bare (.of_forall fun c hc => (h c hc).1)
  rw [normalize, htrim, Text.lower_of_small fun c hc => (h c hc).2]

/-- **A well-formed version is normal.** -/
theorem normalize_of_spells (h : Spells t parts tag?) : normalize t = t := normalize_of_kept h.kept

/-! ## Its numbers and its tag -/

/-- **What the digits of a part count for**: the number they denote, and nothing when there are too
many of them. -/
def worth (ds : List Nat) : Nat :=
  if ds.length ≤ digitLimit then Nat.ofDigits 10 ds.reverse else 0

theorem number_of_digits (h : Digits t ds) : number t = worth ds := by
  rw [number, generous?_of_digits h, worth]
  by_cases hl : ds.length ≤ digitLimit
  · rw [ofDigits_eq_ok hl, if_pos hl]
    rfl
  · rw [ofDigits_eq_error (Nat.not_le.1 hl), if_neg hl]

theorem map_number_of_dotted (h : Dotted t parts) :
    (t.splitOn (.scalar '.')).map number = parts.map worth := by
  induction h with
  | last h =>
    rw [Text.splitOn_of_notMem (h.notMem (by decide)), List.map_singleton, number_of_digits h]
    rfl
  | dot h _ ih =>
    rw [Text.splitOn_append_cons (h.notMem (by decide)), List.map_cons, number_of_digits h, ih]
    rfl

/-- **The version of a well-formed text** has what its parts count for and its tag. -/
theorem ofText_of_spells (h : Spells t parts tag?) : ofText t = ⟨parts.map worth, tag?⟩ := by
  rw [ofText, normalize_of_spells h, ofNormal]
  cases h with
  | release h =>
    rw [Text.cut?_of_notMem h.hyphen_notMem, ← map_number_of_dotted h]
    rfl
  | @tagged main tag _ h ht =>
    have hne : tag.isEmpty = false := by
      cases tag with
      | nil => cases ht
      | cons => rfl
    rw [Text.cut?_append_cons h.hyphen_notMem, ← map_number_of_dotted h]
    simp [hne]

end Version

end FeatureFlags

import FeatureFlags.Proofs.Text.Parts
import FeatureFlags.Text.Digit
import FeatureFlags.Version
import Mathlib.Data.Prod.Basic

/-!
# Proofs/Version/Layout — the well-formed versions are the texts of layouts, each of one

A layout is what a version is put together from, runs of digits and perhaps a tag:

    runs   1, 20, 3        each one digit or more, of any script
    tag    rc.1-x          a digit or small letter of ASCII, then those, dots and hyphens
    text   1.20.3-rc.1-x

Digits and dots stand on both sides of the first hyphen and hyphens within tags, but runs hold
neither dots nor hyphens.  So the first hyphen ends the runs and every dot before it separates two of
them: the text gives its layout back (`text_injective`), and checking it piece by piece finds a
layout if there is one (`isVersion_iff_exists_text`).
-/

namespace FeatureFlags

namespace Version

variable {t : Text} {c : CodePoint}

/-! ## Layouts -/

/-- **A run**: one decimal digit or more. -/
@[ext]
structure Run where
  text : Text
  ne_nil : text ≠ []
  isDigit : ∀ c ∈ text, c.isDigit = true

/-- The digits and small letters of ASCII. -/
def tagLetters : Text := "0123456789abcdefghijklmnopqrstuvwxyz"

/-- **A tag**: a letter, and behind it letters, dots and hyphens. -/
@[ext]
structure Tag where
  first : CodePoint
  rest : Text
  first_mem : first ∈ tagLetters
  rest_mem : ∀ c ∈ rest, c ∈ tagLetters ∨ c = .scalar '.' ∨ c = .scalar '-'

/-- The text of a tag. -/
def Tag.text (tag : Tag) : Text := tag.first :: tag.rest

/-- **A layout**: one run or more, and perhaps a tag. -/
@[ext]
structure Layout where
  runs : List Run
  runs_ne_nil : runs ≠ []
  tag : Option Tag

/-- Runs with single dots between them. -/
def dotted (runs : List Run) : Text := Text.join [.scalar '.'] (runs.map Run.text)

/-- The numeric part of a layout. -/
def Layout.main (layout : Layout) : Text := dotted layout.runs

/-- **The text of a layout**: its numeric part, and its tag behind a hyphen. -/
def Layout.text (layout : Layout) : Text :=
  match layout.tag with
  | none => layout.main
  | some tag => layout.main ++ .scalar '-' :: tag.text

/-! ## The pieces are what is checked -/

theorem isNumber_iff_exists_run : isNumber t = true ↔ ∃ run : Run, run.text = t := by
  rw [isNumber, Bool.and_eq_true, List.all_eq_true, Bool.not_eq_true', List.isEmpty_eq_false_iff]
  constructor
  · rintro ⟨hne, hdigit⟩
    exact ⟨⟨t, hne, hdigit⟩, rfl⟩
  · rintro ⟨run, rfl⟩
    exact ⟨run.ne_nil, run.isDigit⟩

/-- What may open a tag is a letter, and nothing else. -/
theorem opensTag_iff_mem : opensTag c = true ↔ c ∈ tagLetters := by
  have hopen : ∀ c ∈ tagLetters, opensTag c = true := by decide +kernel
  refine ⟨fun h => ?_, hopen c⟩
  cases c with
  | surrogate i => cases h
  | scalar c =>
    have hletters : ∀ n < 0x80, 0x30 ≤ n ∧ n ≤ 0x39 ∨ 0x61 ≤ n ∧ n ≤ 0x7A →
        CodePoint.scalar (Char.ofNat n) ∈ tagLetters := by decide +kernel
    simp only [opensTag, Bool.or_eq_true, Bool.and_eq_true, decide_eq_true_eq, Char.le_def,
      UInt32.le_iff_toNat_le, Char.reduceVal, UInt32.reduceToNat, Char.toNat_val] at h
    rw [← Char.ofNat_toNat c]
    exact hletters c.toNat (by omega) h

theorem inTag_iff : inTag c = true ↔ c ∈ tagLetters ∨ c = .scalar '.' ∨ c = .scalar '-' := by
  rw [inTag, Bool.or_eq_true, Bool.or_eq_true, decide_eq_true_eq, decide_eq_true_eq,
    opensTag_iff_mem, or_assoc]

theorem isTag_iff_exists_tag : isTag t = true ↔ ∃ tag : Tag, tag.text = t := by
  constructor
  · intro h
    cases t with
    | nil => cases h
    | cons first rest =>
      obtain ⟨hfirst, hrest⟩ := Bool.and_eq_true_iff.1 h
      exact ⟨⟨first, rest, opensTag_iff_mem.1 hfirst,
        fun c hc => inTag_iff.1 (List.all_eq_true.1 hrest c hc)⟩, rfl⟩
  · rintro ⟨tag, rfl⟩
    exact Bool.and_eq_true_iff.2 ⟨opensTag_iff_mem.2 tag.first_mem,
      List.all_eq_true.2 fun c hc => inTag_iff.2 (tag.rest_mem c hc)⟩

/-- A list of numbers is a list of runs. -/
theorem all_isNumber_iff_exists_runs {pieces : List Text} :
    pieces.all isNumber = true ↔ ∃ runs : List Run, runs.map Run.text = pieces := by
  constructor
  · intro h
    induction pieces with
    | nil => exact ⟨[], rfl⟩
    | cons piece pieces ih =>
      obtain ⟨hpiece, hpieces⟩ := Bool.and_eq_true_iff.1 h
      obtain ⟨run, rfl⟩ := isNumber_iff_exists_run.1 hpiece
      obtain ⟨runs, rfl⟩ := ih hpieces
      exact ⟨run :: runs, rfl⟩
  · rintro ⟨runs, rfl⟩
    exact List.all_eq_true.2 <| List.forall_mem_map.2 fun run _ =>
      isNumber_iff_exists_run.2 ⟨run, rfl⟩

/-! ## Where the separators stand -/

/-- A run holds no separator. -/
theorem Run.notMem (run : Run) (h : c.isDigit = false) : c ∉ run.text := by
  intro hc
  rw [run.isDigit c hc] at h
  cases h

/-- **The dots separate the runs.** -/
theorem splitOn_dotted {runs : List Run} (h : runs ≠ []) :
    (dotted runs).splitOn (.scalar '.') = runs.map Run.text :=
  Text.splitOn_join (mt List.map_eq_nil_iff.1 h) <|
    List.forall_mem_map.2 fun run _ => run.notMem (by decide)

theorem isDotted_iff_exists_runs :
    isDotted t = true ↔ ∃ runs : List Run, runs ≠ [] ∧ dotted runs = t := by
  constructor
  · intro h
    obtain ⟨runs, hruns⟩ := all_isNumber_iff_exists_runs.1 h
    refine ⟨runs, ?_, by rw [dotted, hruns, Text.join_splitOn]⟩
    rintro rfl
    exact Text.splitOn_ne_nil (.scalar '.') t hruns.symm
  · rintro ⟨runs, hne, rfl⟩
    rw [isDotted, splitOn_dotted hne]
    exact all_isNumber_iff_exists_runs.2 ⟨runs, rfl⟩

theorem Layout.ne_hyphen_of_mem_main (layout : Layout) :
    ∀ c ∈ layout.main, c ≠ .scalar '-' := by
  refine Text.forall_mem_join (List.forall_mem_singleton.2 (by decide)) ?_
  rintro _ hpiece c hc rfl
  obtain ⟨run, -, rfl⟩ := List.mem_map.1 hpiece
  exact run.notMem (by decide) hc

/-- **The first hyphen ends the numeric part.** -/
theorem Layout.cut?_text (layout : Layout) :
    layout.text.cut? (.scalar '-') = layout.tag.map fun tag => (layout.main, tag.text) := by
  have hmain : .scalar '-' ∉ layout.main := fun h => layout.ne_hyphen_of_mem_main _ h rfl
  rw [text]
  cases layout.tag with
  | none => exact Text.cut?_of_notMem hmain
  | some tag => exact Text.cut?_append_cons hmain

theorem Layout.takeWhile_text (layout : Layout) :
    layout.text.takeWhile (· ≠ .scalar '-') = layout.main := by
  have hmain : ∀ c ∈ layout.main, decide (c ≠ .scalar '-') = true := fun c hc =>
    decide_eq_true (layout.ne_hyphen_of_mem_main c hc)
  rw [text]
  cases layout.tag with
  | none => exact List.takeWhile_eq_self_iff.2 hmain
  | some tag =>
    change (layout.main ++ .scalar '-' :: tag.text).takeWhile _ = _
    rw [List.takeWhile_append_of_pos hmain, List.takeWhile_cons_of_neg (by decide),
      List.append_nil]

/-! ## One layout for each text -/

theorem Tag.text_injective : Function.Injective Tag.text := by
  intro a b h
  obtain ⟨hfirst, hrest⟩ := List.cons.inj h
  exact Tag.ext hfirst hrest

/-- **A text has one layout at most.** -/
theorem Layout.text_injective : Function.Injective Layout.text := by
  intro a b h
  have hmain : a.main = b.main := by rw [← a.takeWhile_text, ← b.takeWhile_text, h]
  have hruns : a.runs.map Run.text = b.runs.map Run.text := by
    rw [← splitOn_dotted a.runs_ne_nil, ← splitOn_dotted b.runs_ne_nil]
    exact congrArg _ hmain
  have hcut : (a.tag.map Tag.text).map (a.main, ·) = (b.tag.map Tag.text).map (a.main, ·) := by
    rw [Option.map_map, Option.map_map]
    refine a.cut?_text.symm.trans ((congrArg _ h).trans ?_)
    rw [hmain]
    exact b.cut?_text
  have htag : a.tag = b.tag :=
    Option.map_injective Tag.text_injective (Option.map_injective (Prod.mk_right_injective _) hcut)
  exact Layout.ext (List.map_injective_iff.2 (fun _ _ => Run.ext) hruns) htag

theorem isVersion_iff_exists_text : isVersion t = true ↔ ∃ layout : Layout, layout.text = t := by
  constructor
  · intro h
    rw [isVersion] at h
    by_cases hhyphen : .scalar '-' ∈ t
    · obtain ⟨main, tag, rfl, hmain⟩ := List.eq_append_cons_of_mem hhyphen
      rw [Text.cut?_append_cons hmain] at h
      obtain ⟨hdotted, htag⟩ := Bool.and_eq_true_iff.1 h
      obtain ⟨runs, hne, rfl⟩ := isDotted_iff_exists_runs.1 hdotted
      obtain ⟨tag, rfl⟩ := isTag_iff_exists_tag.1 htag
      exact ⟨⟨runs, hne, some tag⟩, rfl⟩
    · rw [Text.cut?_of_notMem hhyphen] at h
      obtain ⟨runs, hne, rfl⟩ := isDotted_iff_exists_runs.1 h
      exact ⟨⟨runs, hne, none⟩, rfl⟩
  · rintro ⟨layout, rfl⟩
    have hmain : isDotted layout.main = true :=
      isDotted_iff_exists_runs.2 ⟨layout.runs, layout.runs_ne_nil, rfl⟩
    rw [isVersion, layout.cut?_text]
    cases htag : layout.tag with
    | none =>
      change isDotted layout.text = true
      rwa [Layout.text, htag]
    | some tag => exact Bool.and_eq_true_iff.2 ⟨hmain, isTag_iff_exists_tag.2 ⟨tag, rfl⟩⟩

/-- **The well-formed versions are the texts of layouts**, each of one layout, whose numeric part is
what stands before the first hyphen. -/
theorem isVersion_iff_unique_layout :
    (∀ t, isVersion t = true ↔ ∃ layout : Layout, layout.text = t) ∧
      Function.Injective Layout.text ∧
      ∀ layout : Layout, layout.text.takeWhile (· ≠ .scalar '-') = layout.main :=
  ⟨fun _ => isVersion_iff_exists_text, Layout.text_injective, Layout.takeWhile_text⟩

example : ["1.20.3-rc.1-x", "١.2", "1", "1-0"].all (isVersion ·) = true := by decide +kernel

example : ["", "1.", ".1", "1..2", "1-", "1-.x", "1-x\n", "1-X", "1.x"].any (isVersion ·) =
    false := by
  decide +kernel

end Version

end FeatureFlags

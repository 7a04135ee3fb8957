import FeatureFlags.Proofs.Version.Order
import FeatureFlags.Proofs.Version.Spelling
import Mathlib.Data.List.DropRight

/-!
# Proofs/Version/Precedence — the order of well-formed versions, said without comparing

Of two well-formed versions the one precedes the other when its numbers do, or when they agree and
its tag does:

    numbers   the first place where they differ decides (`NumbersPrecede`), a missing one being zero,
    tags      every tag precedes none, and tags are in the order of their code points (`TagPrecedes`).

Numbers agree when they are the same up to zeros at the end (`trimmed`).  Both lists of numbers are
gone through place by place, so everything about them is shown for their heads and their tails
(`places_induction`).
-/

namespace FeatureFlags

/-- A code point is known by its number. -/
theorem CodePoint.toNat_injective : Function.Injective CodePoint.toNat := by
  intro c c' h
  cases c with
  | scalar c =>
    cases c' with
    | scalar c' => rw [Char.toNat_inj.1 h]
    | surrogate i =>
      have hvalid : c.toNat < 0xD800 ∨ 0xDFFF < c.toNat ∧ c.toNat < 0x110000 := c.valid
      have heq : c.toNat = 0xD800 + i := h
      omega
  | surrogate i =>
    cases c' with
    | scalar c' =>
      have hvalid : c'.toNat < 0xD800 ∨ 0xDFFF < c'.toNat ∧ c'.toNat < 0x110000 := c'.valid
      have heq : 0xD800 + i = c'.toNat := h
      omega
    | surrogate i' => rw [Fin.ext (Nat.add_left_cancel h)]

instance : Std.LawfulEqOrd CodePoint where
  eq_of_compare h := CodePoint.toNat_injective (Nat.compare_eq_eq.1 h)

namespace Version

variable {as bs : List Nat} {s t : Text} {a b : Option Text}

/-! ## Numbers -/

/-- **Numbers precede others** when they are smaller in the first place where the two differ. -/
def NumbersPrecede (as bs : List Nat) : Prop :=
  ∃ i, (∀ j < i, as.getD j 0 = bs.getD j 0) ∧ as.getD i 0 < bs.getD i 0

/-- Numbers without the zeros at their end. -/
def trimmed (ns : List Nat) : List Nat := ns.rdropWhile (· = 0)

/-- **Two lists place by place**, as long as one of them goes on. -/
@[elab_as_elim]
theorem places_induction {P : List Nat → List Nat → Prop} (nil : P [] [])
    (step : ∀ as bs, P as.tail bs.tail → P as bs) (as bs : List Nat) : P as bs := by
  induction as generalizing bs with
  | nil =>
    induction bs with
    | nil => exact nil
    | cons b bs ih => exact step [] (b :: bs) ih
  | cons a as ih => exact step (a :: as) bs (ih bs.tail)

theorem compareNumbers_eq_then (as bs : List Nat) : compareNumbers as bs =
    (compare (as.headD 0) (bs.headD 0)).then (compareNumbers as.tail bs.tail) := by
  cases as with
  | nil => cases bs <;> rfl
  | cons a as => cases bs <;> rfl

theorem getD_zero (ns : List Nat) : ns.getD 0 0 = ns.headD 0 := by cases ns <;> rfl

theorem getD_succ (ns : List Nat) (i : Nat) : ns.getD (i + 1) 0 = ns.tail.getD i 0 := by
  cases ns <;> rfl

theorem numbersPrecede_iff : NumbersPrecede as bs ↔
    as.headD 0 < bs.headD 0 ∨ as.headD 0 = bs.headD 0 ∧ NumbersPrecede as.tail bs.tail := by
  simp only [← getD_zero]
  constructor
  · rintro ⟨i, hsame, hlt⟩
    cases i with
    | zero => exact .inl hlt
    | succ i =>
      rw [getD_succ, getD_succ] at hlt
      refine .inr ⟨hsame 0 (Nat.succ_pos i), i, fun j hj => ?_, hlt⟩
      rw [← getD_succ, ← getD_succ]
      exact hsame (j + 1) (Nat.succ_lt_succ hj)
  · rintro (hlt | ⟨hzero, i, hsame, hlt⟩)
    · exact ⟨0, nofun, hlt⟩
    · rw [← getD_succ, ← getD_succ] at hlt
      refine ⟨i + 1, fun j hj => ?_, hlt⟩
      cases j with
      | zero => exact hzero
      | succ j =>
        rw [getD_succ, getD_succ]
        exact hsame j (Nat.lt_of_succ_lt_succ hj)

theorem trimmed_cons (n : Nat) (ns : List Nat) :
    trimmed (n :: ns) = if n = 0 ∧ trimmed ns = [] then [] else n :: trimmed ns := by
  simp only [trimmed, List.rdropWhile, List.reverse_cons, List.dropWhile_append,
    List.reverse_eq_nil_iff, List.isEmpty_iff]
  by_cases hns : ns.reverse.dropWhile (· = 0) = []
  · by_cases hn : n = 0 <;> simp [hns, hn]
  · simp [hns]

theorem trimmed_cons_eq_nil_iff {n : Nat} {ns : List Nat} :
    trimmed (n :: ns) = [] ↔ n = 0 ∧ trimmed ns = [] := by
  rw [trimmed_cons, ite_eq_left_iff]
  simp

theorem trimmed_eq_iff : trimmed as = trimmed bs ↔
    as.headD 0 = bs.headD 0 ∧ trimmed as.tail = trimmed bs.tail := by
  have hnil : trimmed [] = [] := rfl
  cases as with
  | nil =>
    cases bs with
    | nil => exact iff_of_true rfl ⟨rfl, rfl⟩
    | cons b bs =>
      rw [hnil, eq_comm, trimmed_cons_eq_nil_iff]
      exact and_congr eq_comm eq_comm
  | cons a as =>
    cases bs with
    | nil => exact trimmed_cons_eq_nil_iff
    | cons b bs =>
      rw [trimmed_cons, trimmed_cons, List.headD_cons, List.headD_cons, List.tail_cons,
        List.tail_cons]
      grind

theorem compareNumbers_eq_lt_iff : compareNumbers as bs = .lt ↔ NumbersPrecede as bs := by
  induction as, bs using places_induction with
  | nil => exact iff_of_false nofun fun ⟨i, _, hlt⟩ => Nat.lt_irrefl _ hlt
  | step as bs ih =>
    rw [compareNumbers_eq_then, numbersPrecede_iff, Ordering.then_eq_lt, ih, Nat.compare_eq_lt,
      Nat.compare_eq_eq]

theorem compareNumbers_eq_eq_iff : compareNumbers as bs = .eq ↔ trimmed as = trimmed bs := by
  induction as, bs using places_induction with
  | nil => exact iff_of_true rfl rfl
  | step as bs ih =>
    rw [compareNumbers_eq_then, trimmed_eq_iff, Ordering.then_eq_eq, ih, Nat.compare_eq_eq]

/-! ## Tags -/

/-- **Tags precede others** by code point, and no tag comes last. -/
inductive TagPrecedes : Option Text → Option Text → Prop
  | none (tag : Text) : TagPrecedes (some tag) none
  | some {s t : Text} (h : s.map CodePoint.toNat < t.map CodePoint.toNat) :
      TagPrecedes (some s) (some t)

theorem compare_text_eq_lt_iff :
    compare s t = .lt ↔ s.map CodePoint.toNat < t.map CodePoint.toNat := by
  induction s generalizing t with
  | nil => cases t <;> simp
  | cons c s ih =>
    cases t with
    | nil => simp
    | cons d t =>
      rw [List.compare_cons_cons, Ordering.then_eq_lt, ih, List.map_cons, List.map_cons,
        List.cons_lt_cons_iff, Std.compare_eq_iff_eq, CodePoint.toNat_injective.eq_iff]
      exact or_congr_left Nat.compare_eq_lt

theorem compareTags_eq_lt_iff : compareTags a b = .lt ↔ TagPrecedes a b := by
  cases a with
  | none => cases b <;> exact iff_of_false nofun nofun
  | some s =>
    cases b with
    | none => exact iff_of_true rfl (.none s)
    | some t =>
      refine compare_text_eq_lt_iff.trans ⟨.some, fun h => ?_⟩
      cases h with
      | some h => exact h

theorem compareTags_eq_eq_iff : compareTags a b = .eq ↔ a = b := by
  cases a with
  | none => cases b <;> simp [compareTags]
  | some s => cases b <;> simp [compareTags]

/-! ## Versions -/

/-- **A version precedes another** by its numbers, or by its tag where the numbers agree. -/
def Precedes (as : List Nat) (a : Option Text) (bs : List Nat) (b : Option Text) : Prop :=
  NumbersPrecede as bs ∨ trimmed as = trimmed bs ∧ TagPrecedes a b

theorem compare_eq_lt_iff :
    compare (⟨as, a⟩ : Version) ⟨bs, b⟩ = .lt ↔ Precedes as a bs b := by
  change (compareNumbers as bs).then (compareTags a b) = .lt ↔ _
  rw [Ordering.then_eq_lt, compareNumbers_eq_lt_iff, compareNumbers_eq_eq_iff,
    compareTags_eq_lt_iff, Precedes]

theorem compare_eq_eq_iff :
    compare (⟨as, a⟩ : Version) ⟨bs, b⟩ = .eq ↔ trimmed as = trimmed bs ∧ a = b := by
  change (compareNumbers as bs).then (compareTags a b) = .eq ↔ _
  rw [Ordering.then_eq_eq, compareNumbers_eq_eq_iff, compareTags_eq_eq_iff]

/-- **The order of well-formed versions is the semantic one.**  Each of them is written as dotted
digits and perhaps a tag, and however two of them are written so, their comparison is decided by what
their parts count for and by their tags; they are equal just when both agree. -/
theorem compareTexts_semantic {s t : Text} (hs : isVersion s = true) (ht : isVersion t = true) :
    (∃ parts tag?, Spells s parts tag?) ∧ (∃ parts tag?, Spells t parts tag?) ∧
    ∀ (as : List (List Nat)) (a : Option Text) (bs : List (List Nat)) (b : Option Text),
      Spells s as a → Spells t bs b →
      (compareTexts s t = .lt ↔ Precedes (as.map worth) a (bs.map worth) b) ∧
      (compareTexts s t = .gt ↔ Precedes (bs.map worth) b (as.map worth) a) ∧
      (compareTexts s t = .eq ↔ trimmed (as.map worth) = trimmed (bs.map worth) ∧ a = b) := by
  refine ⟨exists_spells_of_isVersion hs, exists_spells_of_isVersion ht, fun as a bs b ha hb => ?_⟩
  rw [compareTexts, ofText_of_spells ha, ofText_of_spells hb]
  exact ⟨compare_eq_lt_iff, Std.OrientedCmp.gt_iff_lt.trans compare_eq_lt_iff, compare_eq_eq_iff⟩

/-- A pre-release and its release, which is written with a leading zero and a number less. -/
theorem compareTexts_semantic_preRelease :
    isVersion "1.0-rc" = true ∧ isVersion "01" = true ∧ compareTexts "1.0-rc" "01" = .lt := by
  have hs : isVersion "1.0-rc" = true := by decide
  have ht : isVersion "01" = true := by decide
  have ha : Spells ((("1" : Text) ++ .scalar '.' :: "0") ++ .scalar '-' :: "rc") [[1], [0]]
      (some "rc") :=
    .tagged (.dot ⟨by decide, by decide⟩ (.last ⟨by decide, by decide⟩)) (by decide)
  have hb : Spells "01" [[0, 1]] none := .release (.last ⟨by decide, by decide⟩)
  obtain ⟨hlt, -, -⟩ := (compareTexts_semantic hs ht).2.2 _ _ _ _ ha hb
  exact ⟨hs, ht, hlt.2 (.inr ⟨by decide, .none "rc"⟩)⟩

end Version

end FeatureFlags

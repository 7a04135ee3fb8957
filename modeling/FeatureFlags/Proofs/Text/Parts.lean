import FeatureFlags.Text.Blank
import Mathlib.Data.List.DropRight

/-!
# Proofs/Text/Parts — what trimming, cutting and splitting take a text apart into

Each of these operations is told by how its pieces make up the text again:

    trimming    text = blanks ++ core ++ blanks,    and the core has none at its ends (`Bare`)
    cutting     text = left ++ separator ++ right,  and the left half has no separator
    splitting   the same, again and again on the right half

A text determines its pieces, so whoever has found them has found the result.
-/

namespace FeatureFlags

namespace Text

variable {p : CodePoint → Bool} {separator : CodePoint} {t core left right : Text}

/-! ## Trimming -/

/-- **A core and what surrounds it**: code points of a class on both sides. -/
def Around (p : CodePoint → Bool) (core t : Text) : Prop :=
  ∃ before after, (∀ c ∈ before, p c) ∧ (∀ c ∈ after, p c) ∧ t = before ++ core ++ after

/-- Neither end of a text is of a class. -/
structure Bare (p : CodePoint → Bool) (t : Text) : Prop where
  head : ∀ c ∈ t.head?, p c = false
  last : ∀ c ∈ t.getLast?, p c = false

/-- A text that has no code point of a class at all. -/
theorem Bare.of_forall (h : ∀ c ∈ t, p c = false) : Bare p t :=
  ⟨fun c hc => h c (List.mem_of_mem_head? hc), fun c hc => h c (List.mem_of_mem_getLast? hc)⟩

theorem Bare.append {l r : Text} (hl : Bare p l) (hr : Bare p r) (hl' : l ≠ []) (hr' : r ≠ []) :
    Bare p (l ++ r) where
  head := by
    rw [List.head?_append_of_ne_nil l hl']
    exact hl.head
  last := by
    rw [List.getLast?_append_of_ne_nil l hr']
    exact hr.last

theorem Around.trans {inner : Text} (h : Around p inner core) (h' : Around p core t) :
    Around p inner t := by
  obtain ⟨first, last, hfirst, hlast, rfl⟩ := h
  obtain ⟨before, after, hbefore, hafter, rfl⟩ := h'
  exact ⟨before ++ first, last ++ after, List.forall_mem_append.2 ⟨hbefore, hfirst⟩,
    List.forall_mem_append.2 ⟨hlast, hafter⟩, by simp only [List.append_assoc]⟩

theorem around_dropWhile (p : CodePoint → Bool) (t : Text) : Around p (t.dropWhile p) t :=
  ⟨t.takeWhile p, [], List.all_eq_true.1 List.all_takeWhile, nofun, by
    rw [List.append_nil, List.takeWhile_append_dropWhile]⟩

theorem around_rdropWhile (p : CodePoint → Bool) (t : Text) : Around p (t.rdropWhile p) t :=
  ⟨[], t.rtakeWhile p, nofun, fun _ => List.mem_rtakeWhile_imp, by
    rw [List.nil_append, List.rdropWhile_append_rtakeWhile]⟩

/-- What is trimmed away surrounds what is left. -/
theorem around_dropAround (p : CodePoint → Bool) (t : Text) : Around p (t.dropAround p) t :=
  (around_rdropWhile p (t.dropWhile p)).trans (around_dropWhile p t)

theorem dropWhile_of_head (h : ∀ c ∈ t.head?, p c = false) : t.dropWhile p = t := by
  cases t with
  | nil => rfl
  | cons c t => exact List.dropWhile_cons_of_neg (by simp [h c rfl])

/-- **A bare core is what trimming leaves.** -/
theorem dropAround_of_around (h : Around p core t) (hb : Bare p core) :
    t.dropAround p = core := by
  obtain ⟨before, after, hbefore, hafter, rfl⟩ := h
  rw [dropAround, List.append_assoc, List.dropWhile_append_of_pos hbefore]
  cases core with
  | nil =>
    rw [List.nil_append, List.dropWhile_eq_nil_iff.2 hafter]
    rfl
  | cons c core =>
    have hfront : ((c :: core) ++ after).dropWhile p = (c :: core) ++ after :=
      dropWhile_of_head fun d hd => hb.head d hd
    have hback : (c :: core).reverse.dropWhile p = (c :: core).reverse :=
      dropWhile_of_head fun d hd => hb.last d (by rwa [List.head?_reverse] at hd)
    rw [hfront, List.reverse_append,
      List.dropWhile_append_of_pos fun d hd => hafter d (List.mem_reverse.1 hd), hback,
      List.reverse_reverse]

theorem dropAround_of_bare (h : Bare p t) : t.dropAround p = t :=
  dropAround_of_around ⟨[], [], nofun, nofun, (List.append_nil _).symm⟩ h

theorem head_dropWhile (p : CodePoint → Bool) (t : Text) :
    ∀ c ∈ (t.dropWhile p).head?, p c = false := by
  intro c hc
  have h := List.head?_dropWhile_not p t
  rwa [Option.mem_def.1 hc] at h

/-- What trimming leaves is bare. -/
theorem bare_dropAround (p : CodePoint → Bool) (t : Text) : Bare p (t.dropAround p) := by
  constructor
  · intro c hc
    have hprefix : t.dropAround p <+: t.dropWhile p :=
      List.rdropWhile_prefix p (t.dropWhile p)
    obtain ⟨rest, hrest⟩ := hprefix
    refine head_dropWhile p t c ?_
    rw [← hrest, List.head?_append, Option.mem_def.1 hc]
    rfl
  · intro c hc
    rw [dropAround, List.getLast?_reverse] at hc
    exact head_dropWhile p _ c hc

/-- **What surrounds a text is trimmed away** with the ends of the text. -/
theorem dropAround_around (h : Around p core t) : t.dropAround p = core.dropAround p :=
  dropAround_of_around ((around_dropAround p core).trans h) (bare_dropAround p core)

/-- Nothing is dropped from behind a code point that is kept. -/
theorem dropWhile_append_of_head {l r : Text} (h : ∀ c ∈ r.head?, p c = false) :
    (l ++ r).dropWhile p = l.dropWhile p ++ r := by
  rw [List.dropWhile_append, dropWhile_of_head h]
  split
  · next hl => rw [List.isEmpty_iff.1 hl, List.nil_append]
  · rfl

/-- **A bare middle stays**, and trimming goes up to it from both sides. -/
theorem dropAround_append {l m r : Text} (hm : Bare p m) (hne : m ≠ []) :
    (l ++ m ++ r).dropAround p = l.dropWhile p ++ m ++ r.rdropWhile p := by
  have hhead : ∀ c ∈ (m ++ r).head?, p c = false := by
    rw [List.head?_append_of_ne_nil m hne]
    exact hm.head
  have hlast : ∀ c ∈ (l.dropWhile p ++ m).reverse.head?, p c = false := by
    rw [List.head?_reverse, List.getLast?_append_of_ne_nil _ hne]
    exact hm.last
  rw [dropAround, List.append_assoc, dropWhile_append_of_head hhead, ← List.append_assoc,
    List.reverse_append, dropWhile_append_of_head hlast, List.reverse_append, List.reverse_reverse]
  rfl

/-! ## Leading pieces -/

/-- A text that starts with a piece. -/
theorem after?_eq_some_iff {piece rest : Text} : t.after? piece = some rest ↔ t = piece ++ rest := by
  induction piece generalizing t with
  | nil => simp [after?]
  | cons p ps ih =>
    cases t with
    | nil => simp [after?]
    | cons c cs =>
      rw [after?]
      by_cases h : p = c
      · simp [h, ih]
      · simp [h, Ne.symm h]

/-! ## Cutting and splitting -/

theorem cut?_of_notMem (h : separator ∉ t) : t.cut? separator = none := by
  induction t with
  | nil => rfl
  | cons c t ih =>
    rw [List.mem_cons, not_or] at h
    rw [cut?, if_neg (Ne.symm h.1), ih h.2]
    rfl

theorem cut?_append_cons (h : separator ∉ left) :
    (left ++ separator :: right).cut? separator = some (left, right) := by
  induction left with
  | nil => exact if_pos rfl
  | cons c left ih =>
    rw [List.mem_cons, not_or] at h
    rw [List.cons_append, cut?, if_neg (Ne.symm h.1), ih h.2]
    rfl

theorem splitOn_of_notMem (h : separator ∉ t) : t.splitOn separator = [t] := by
  induction t with
  | nil => rfl
  | cons c t ih =>
    rw [List.mem_cons, not_or] at h
    rw [splitOn, if_neg (Ne.symm h.1), ih h.2]

theorem splitOn_append_cons (h : separator ∉ left) :
    (left ++ separator :: right).splitOn separator = left :: right.splitOn separator := by
  induction left with
  | nil => exact if_pos rfl
  | cons c left ih =>
    rw [List.mem_cons, not_or] at h
    rw [List.cons_append, splitOn, if_neg (Ne.symm h.1), ih h.2]

theorem length_splitOn (separator : CodePoint) (t : Text) :
    (t.splitOn separator).length = t.count separator + 1 := by
  induction t with
  | nil => rfl
  | cons c t ih =>
    rw [splitOn]
    by_cases h : c = separator
    · rw [if_pos h, h, List.count_cons_self, List.length_cons, ih]
    · rw [if_neg h, List.count_cons_of_ne h]
      split <;> simp_all

theorem splitOn_ne_nil (separator : CodePoint) (t : Text) : t.splitOn separator ≠ [] := by
  rw [← List.length_pos_iff, length_splitOn]
  exact Nat.succ_pos _

/-- **Induction along the separators of a text**, which is what splitting recurs on. -/
@[elab_as_elim]
theorem pieceInduction {motive : Text → Prop} (separator : CodePoint) (t : Text)
    (last : ∀ t, separator ∉ t → motive t)
    (cut : ∀ left right, separator ∉ left → motive right → motive (left ++ separator :: right)) :
    motive t := by
  by_cases hmem : separator ∈ t
  · obtain ⟨left, right, ht, hleft⟩ := List.eq_append_cons_of_mem hmem
    have hshorter : right.length < t.length := by
      rw [ht, List.length_append, List.length_cons]
      omega
    exact ht ▸ cut left right hleft (pieceInduction separator right last cut)
  · exact last t hmem
termination_by t.length

/-! ## Joining -/

theorem join_cons (separator piece : Text) {pieces : List Text} (h : pieces ≠ []) :
    join separator (piece :: pieces) = piece ++ separator ++ join separator pieces := by
  cases pieces with
  | nil => exact absurd rfl h
  | cons => rfl

/-- What is joined holds nothing but what the pieces and the separator hold. -/
theorem forall_mem_join {q : CodePoint → Prop} {separator : Text} {pieces : List Text}
    (hs : ∀ c ∈ separator, q c) (hp : ∀ p ∈ pieces, ∀ c ∈ p, q c) :
    ∀ c ∈ join separator pieces, q c := by
  induction pieces with
  | nil => exact nofun
  | cons piece pieces ih =>
    obtain ⟨hpiece, hpieces⟩ := List.forall_mem_cons.1 hp
    by_cases hnil : pieces = []
    · rwa [hnil, join]
    · rw [join_cons _ _ hnil, List.append_assoc]
      exact List.forall_mem_append.2 ⟨hpiece, List.forall_mem_append.2 ⟨hs, ih hpieces⟩⟩

/-- **Splitting undoes joining**, when no piece holds the separator. -/
theorem splitOn_join {pieces : List Text} (h : pieces ≠ []) (hp : ∀ p ∈ pieces, separator ∉ p) :
    (join [separator] pieces).splitOn separator = pieces := by
  induction pieces with
  | nil => exact absurd rfl h
  | cons piece pieces ih =>
    obtain ⟨hpiece, hpieces⟩ := List.forall_mem_cons.1 hp
    by_cases hnil : pieces = []
    · rw [hnil, join, splitOn_of_notMem hpiece]
    · rw [join_cons _ _ hnil, List.append_assoc, List.singleton_append,
        splitOn_append_cons hpiece, ih hnil hpieces]

/-- **Joining undoes splitting.** -/
theorem join_splitOn (separator : CodePoint) (t : Text) :
    join [separator] (t.splitOn separator) = t := by
  induction t using pieceInduction separator with
  | last t ht => rw [splitOn_of_notMem ht, join]
  | cut left right hleft ih =>
    rw [splitOn_append_cons hleft, join_cons _ _ (splitOn_ne_nil _ _), ih, List.append_assoc,
      List.singleton_append]

theorem join_eq_intercalate (separator : Text) (ts : List Text) :
    join separator ts = List.intercalate separator ts := by
  match ts with
  | [] => rfl
  | [t] => rw [join, List.intercalate_singleton]
  | t :: u :: ts =>
    rw [join, List.intercalate_cons_cons, join_eq_intercalate separator (u :: ts)]
    exact List.cons_ne_nil u ts

end Text

end FeatureFlags

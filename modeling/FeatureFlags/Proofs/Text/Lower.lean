import FeatureFlags.Proofs.Text.CodePoint
import FeatureFlags.Proofs.Text.Small

/-!
# Proofs/Text/Lower — what lower-casing looks at, and what it can make

Lower-casing goes code point by code point, but for the capital sigma, which becomes a final one by
the letters around it.  They are sought through marks and apostrophes, and no further than a break:

    ΑΣ'Α     one word, and no end of it at the sigma
    ΑΣ-Α     two words, since a hyphen breaks them: the sigma is the last letter of the first

Blanks, hyphens and angle brackets are breaks, so that what stands on the two sides of one is
lower-cased apart (`lower_append_cons`); the case of an ASCII letter changes neither its small letter
nor what the letters next to it see (`lower_congr`).  No code point becomes a blank or an ASCII sign,
so trimming may come first or last (`trim_lower`).
-/

namespace FeatureFlags

namespace CodePoint

variable {c d : CodePoint}

/-! ## Breaks -/

/-- **A break**: no letter with a case and not looked through, and kept as it is. -/
structure Breaks (c : CodePoint) : Prop where
  cased : c.isCased = false
  ignorable : c.isCaseIgnorable = false
  small : c.Small

/-- The ranges of blanks. -/
def blankRanges : List (Nat × Nat) := (0x1C, 0x1F) :: whiteSpaceRanges

theorem isBlank_eq (c : CodePoint) : c.isBlank = Range.mem blankRanges c.toNat :=
  Bool.or_comm _ _

/-- A code point between bounds that leave out the ranges of a table. -/
theorem mem_eq_false_of_apart {ranges : List (Nat × Nat)} {low high : Nat}
    (hc : low ≤ c.toNat ∧ c.toNat ≤ high) (h : ∀ s ∈ ranges, high < s.1 ∨ s.2 < low) :
    Range.mem ranges c.toNat = false := by
  rw [Bool.eq_false_iff, ne_eq, Range.mem_eq_true_iff]
  rintro ⟨s, hs, hin⟩
  have hapart := h s hs
  omega

/-- **Blanks are breaks.** -/
theorem breaks_of_isBlank (h : c.isBlank = true) : c.Breaks := by
  rw [isBlank_eq, Range.mem_eq_true_iff] at h
  obtain ⟨r, hr, hc⟩ := h
  have hcased : ∀ r ∈ blankRanges, ∀ s ∈ casedRanges, r.2 < s.1 ∨ s.2 < r.1 :=
    Range.apart_of_all (by decide +kernel)
  have hignorable : ∀ r ∈ blankRanges, ∀ s ∈ caseIgnorableRanges, r.2 < s.1 ∨ s.2 < r.1 :=
    Range.apart_of_all (by decide +kernel)
  have hruns : ∀ r ∈ blankRanges, ∀ s ∈ capitalRuns, r.2 < s.first ∨ s.last < r.1 :=
    Range.apart_of_all (by decide +kernel)
  have hdotted : ∀ r ∈ blankRanges, r.2 < 0x130 ∨ 0x130 < r.1 := by decide +kernel
  exact ⟨mem_eq_false_of_apart hc (hcased r hr), mem_eq_false_of_apart hc (hignorable r hr),
    small_of_range hc (hdotted r hr) (hruns r hr)⟩

/-- **The hyphen and the signs of comparisons are breaks.** -/
theorem breaks_of_mem_signs : ∀ c ∈ [CodePoint.scalar '-', .scalar '<', .scalar '=', .scalar '>'],
    c.Breaks := by
  intro c hc
  have hsign : c.isCased = false ∧ c.isCaseIgnorable = false ∧ c.toNat < 0x41 := by
    revert c
    decide +kernel
  exact ⟨hsign.1, hsign.2.1, small_of_ascii (by omega) (by omega)⟩

/-! ## The letters of ASCII -/

/-- A capital of ASCII and its small letter. -/
def CapitalOf (c d : CodePoint) : Prop := ∃ n < 26, c = .ofNat (0x41 + n) ∧ d = .ofNat (0x61 + n)

instance (c d : CodePoint) : Decidable (CapitalOf c d) :=
  inferInstanceAs (Decidable (∃ n < 26, c = .ofNat (0x41 + n) ∧ d = .ofNat (0x61 + n)))

/-- **The same letter** in capitals or not, as far as ASCII goes; any other code point is the same
as itself only. -/
def SameLetter (c d : CodePoint) : Prop := c = d ∨ CapitalOf c d ∨ CapitalOf d c

instance : DecidableRel SameLetter := fun c d =>
  inferInstanceAs (Decidable (c = d ∨ CapitalOf c d ∨ CapitalOf d c))

/-- **Told apart by nothing that lower-casing asks.** -/
structure AlikeInCase (c d : CodePoint) : Prop where
  lower : c.lower = d.lower
  cased : c.isCased = d.isCased
  ignorable : c.isCaseIgnorable = d.isCaseIgnorable
  sigma : c.toNat = 0x3A3 ↔ d.toNat = 0x3A3

theorem AlikeInCase.symm (h : AlikeInCase c d) : AlikeInCase d c :=
  ⟨h.lower.symm, h.cased.symm, h.ignorable.symm, h.sigma.symm⟩

theorem CapitalOf.alikeInCase (h : CapitalOf c d) : AlikeInCase c d := by
  have hletters : ∀ n < 26, (ofNat (0x41 + n)).lower = (ofNat (0x61 + n)).lower ∧
      (ofNat (0x41 + n)).isCased = (ofNat (0x61 + n)).isCased ∧
      (ofNat (0x41 + n)).isCaseIgnorable = (ofNat (0x61 + n)).isCaseIgnorable ∧
      ((ofNat (0x41 + n)).toNat = 0x3A3 ↔ (ofNat (0x61 + n)).toNat = 0x3A3) := by
    decide +kernel
  obtain ⟨n, hn, rfl, rfl⟩ := h
  obtain ⟨hlower, hcased, hignorable, hsigma⟩ := hletters n hn
  exact ⟨hlower, hcased, hignorable, hsigma⟩

theorem SameLetter.alikeInCase (h : SameLetter c d) : AlikeInCase c d := by
  obtain rfl | h | h := h
  · exact ⟨rfl, rfl, rfl, .rfl⟩
  · exact h.alikeInCase
  · exact h.alikeInCase.symm

/-! ## What a code point becomes -/

/-- **What a code point becomes**, in some place or other. -/
def Becomes (c : CodePoint) (piece : Text) : Prop :=
  piece = c.lower ∨ c.toNat = 0x3A3 ∧ piece = [.ofNat 0x3C2]

/-- The small letters of a run of capitals are no blanks, and no signs or digits of ASCII. -/
theorem small_of_run {r : CapitalRun} (hr : r ∈ capitalRuns) {n : Nat}
    (hn : r.first ≤ n ∧ n ≤ r.last) :
    0x61 ≤ (ofNat (n + r.offset).toNat).toNat ∧ (ofNat (n + r.offset).toNat).isBlank = false := by
  have htable : ∀ r ∈ capitalRuns, 0x61 ≤ r.first + r.offset ∧ r.last + r.offset < 0x110000 ∧
      ∀ b ∈ blankRanges, r.last + r.offset < b.1 ∨ b.2 < r.first + r.offset := by decide +kernel
  obtain ⟨hlow, hhigh, hblank⟩ := htable r hr
  have hnumber : (ofNat (n + r.offset).toNat).toNat = (n + r.offset).toNat :=
    toNat_ofNat (by omega)
  refine ⟨by omega, (isBlank_eq _).trans (mem_eq_false_of_apart ⟨le_rfl, le_rfl⟩ fun b hb => ?_)⟩
  have hapart := hblank b hb
  omega

/-- **What a code point is mapped to** is itself, or neither a blank nor a sign of ASCII. -/
theorem eq_or_of_mem_lower (h : d ∈ c.lower) : d = c ∨ 0x61 ≤ d.toNat ∧ d.isBlank = false := by
  simp only [lower] at h
  split at h
  · split at h
    · next hcapital =>
      have hnumber : (ofNat (c.toNat + 32)).toNat = c.toNat + 32 := toNat_ofNat (by omega)
      have hletter : 0x61 ≤ d.toNat ∧ d.toNat ≤ 0x7A := by
        rw [List.mem_singleton.1 h]
        omega
      exact .inr ⟨hletter.1, (isBlank_eq d).trans (mem_eq_false_of_apart hletter (by decide))⟩
    · exact .inl (List.mem_singleton.1 h)
  · split at h
    · have hdotted : ∀ d ∈ [CodePoint.scalar 'i', ofNat 0x307],
          0x61 ≤ d.toNat ∧ d.isBlank = false := by decide
      exact .inr (hdotted d h)
    · split at h
      · next small hsmall =>
        obtain ⟨r, hr, hin⟩ := List.exists_of_findSome?_eq_some hsmall
        obtain ⟨hrange, hsmall⟩ := Option.ite_none_right_eq_some.1 hin
        rw [List.mem_singleton.1 h, ← Option.some.inj hsmall]
        exact .inr (small_of_run hr ⟨hrange.1, hrange.2.1⟩)
      · exact .inl (List.mem_singleton.1 h)

theorem Becomes.eq_or {piece : Text} (h : c.Becomes piece) (hd : d ∈ piece) :
    d = c ∨ 0x61 ≤ d.toNat ∧ d.isBlank = false := by
  obtain rfl | ⟨-, rfl⟩ := h
  · exact eq_or_of_mem_lower hd
  · rw [List.mem_singleton.1 hd]
    exact .inr (by decide)

theorem Becomes.ne_nil {piece : Text} (h : c.Becomes piece) : piece ≠ [] := by
  obtain rfl | ⟨-, rfl⟩ := h
  · simp only [lower]
    split
    · split <;> exact List.cons_ne_nil _ _
    · split
      · exact List.cons_ne_nil _ _
      · split <;> exact List.cons_ne_nil _ _
  · exact List.cons_ne_nil _ _

theorem Becomes.isBlank {piece : Text} (h : c.Becomes piece) (hc : c.isBlank = false) :
    ∀ d ∈ piece, d.isBlank = false := by
  intro d hd
  obtain rfl | ⟨-, hblank⟩ := h.eq_or hd
  · exact hc
  · exact hblank

end CodePoint

namespace Text

variable {c d s : CodePoint} {t u before core : Text}

/-! ## Word by word -/

/-- The search for a letter ends at a break. -/
theorem meetsCased_append_cons (hs : s.Breaks) (t u : Text) :
    meetsCased (t ++ s :: u) = meetsCased t := by
  induction t with
  | nil =>
    rw [List.nil_append, meetsCased, List.dropWhile_cons_of_neg (by simp [hs.ignorable])]
    exact hs.cased
  | cons c t ih =>
    by_cases hc : c.isCaseIgnorable = true
    · simpa only [meetsCased, List.cons_append, List.dropWhile_cons_of_pos hc] using ih
    · simp only [meetsCased, List.cons_append, List.dropWhile_cons_of_neg hc]

/-- What has been passed before a break is not looked at. -/
theorem lowerAfter_append_cons (hs : s.Breaks) (before passed t : Text) :
    lowerAfter (before ++ s :: passed) t = lowerAfter before t := by
  induction t generalizing before with
  | nil => rfl
  | cons c t ih => rw [lowerAfter, lowerAfter, meetsCased_append_cons hs, ← List.cons_append, ih]

/-- **The two sides of a break are lower-cased apart.** -/
theorem lower_append_cons (hs : s.Breaks) (t u : Text) :
    (t ++ s :: u).lower = t.lower ++ s :: u.lower := by
  have hafter (before : Text) :
      lowerAfter before (t ++ s :: u) = lowerAfter before t ++ s :: u.lower := by
    induction t generalizing before with
    | nil =>
      rw [List.nil_append, lowerAfter, lowerAfter, if_neg fun h => hs.small.ne_sigma h.1,
        hs.small.lower]
      exact congrArg (s :: ·) (lowerAfter_append_cons hs [] before u)
    | cons c t ih =>
      rw [List.cons_append, lowerAfter, meetsCased_append_cons hs, ih, lowerAfter,
        List.append_assoc]
  exact hafter []

theorem lower_append_of_breaks (h : ∀ c ∈ t, c.Breaks) (u : Text) :
    (t ++ u).lower = t ++ u.lower := by
  induction t with
  | nil => rfl
  | cons c t ih =>
    obtain ⟨hc, ht⟩ := List.forall_mem_cons.1 h
    have hword := lower_append_cons hc [] (t ++ u)
    rw [ih ht] at hword
    exact hword

theorem lower_append_breaks (h : ∀ c ∈ u, c.Breaks) (t : Text) :
    (t ++ u).lower = t.lower ++ u := by
  cases u with
  | nil => rw [List.append_nil, List.append_nil]
  | cons c u =>
    obtain ⟨hc, hu⟩ := List.forall_mem_cons.1 h
    rw [lower_append_cons hc, lower_of_small fun d hd => (hu d hd).small]

/-! ## Capitals and small letters of ASCII -/

theorem meetsCased_congr (h : List.Forall₂ CodePoint.SameLetter t u) :
    meetsCased t = meetsCased u := by
  induction h with
  | nil => rfl
  | @cons c d t u hc _ ih =>
    have halike := hc.alikeInCase
    by_cases hign : c.isCaseIgnorable = true
    · have hign' : d.isCaseIgnorable = true := halike.ignorable ▸ hign
      simpa only [meetsCased, List.dropWhile_cons_of_pos hign, List.dropWhile_cons_of_pos hign']
        using ih
    · have hign' : ¬ d.isCaseIgnorable = true := halike.ignorable ▸ hign
      simp only [meetsCased, List.dropWhile_cons_of_neg hign, List.dropWhile_cons_of_neg hign',
        halike.cased]

/-- **The case of ASCII letters does not matter.** -/
theorem lower_congr (h : List.Forall₂ CodePoint.SameLetter t u) : t.lower = u.lower := by
  have hafter {before before' : Text} (hbefore : List.Forall₂ CodePoint.SameLetter before before') :
      lowerAfter before t = lowerAfter before' u := by
    induction h generalizing before before' with
    | nil => rfl
    | @cons c d t u hc ht ih =>
      simp only [lowerAfter, ih (.cons hc hbefore), meetsCased_congr hbefore, meetsCased_congr ht,
        hc.alikeInCase.sigma, hc.alikeInCase.lower]
  exact hafter .nil

/-! ## Nothing new -/

/-- Lower-casing goes code point by code point. -/
theorem exists_lowerAfter_cons (before : Text) (c : CodePoint) (t : Text) :
    ∃ piece, c.Becomes piece ∧ lowerAfter before (c :: t) = piece ++ lowerAfter (c :: before) t := by
  rw [lowerAfter]
  split
  · next h => exact ⟨_, .inr ⟨h.1, rfl⟩, rfl⟩
  · exact ⟨_, .inl rfl, rfl⟩

/-- The last code point of a text becomes the end of it. -/
theorem exists_lowerAfter_concat (before t : Text) (c : CodePoint) :
    ∃ u piece, c.Becomes piece ∧ lowerAfter before (t ++ [c]) = u ++ piece := by
  induction t generalizing before with
  | nil =>
    obtain ⟨piece, hpiece, heq⟩ := exists_lowerAfter_cons before c []
    exact ⟨[], piece, hpiece, heq.trans (List.append_nil piece)⟩
  | cons d t ih =>
    obtain ⟨front, -, hfront⟩ := exists_lowerAfter_cons before d (t ++ [c])
    obtain ⟨u, piece, hpiece, heq⟩ := ih (d :: before)
    exact ⟨front ++ u, piece, hpiece, by rw [List.cons_append, hfront, heq, List.append_assoc]⟩

theorem mem_of_mem_lowerAfter (h : d ∈ lowerAfter before t) (hd : d.toNat < 0x61) : d ∈ t := by
  induction t generalizing before with
  | nil => exact h
  | cons c t ih =>
    obtain ⟨piece, hpiece, heq⟩ := exists_lowerAfter_cons before c t
    rw [heq] at h
    obtain h | h := List.mem_append.1 h
    · obtain rfl | ⟨hd', -⟩ := hpiece.eq_or h
      · exact List.mem_cons_self
      · omega
    · exact List.mem_cons_of_mem c (ih h)

/-- **A sign of ASCII comes from itself only.** -/
theorem mem_of_mem_lower (h : d ∈ t.lower) (hd : d.toNat < 0x61) : d ∈ t :=
  mem_of_mem_lowerAfter h hd

/-- A text that opens with a sign of ASCII in small letters opens with it as it stands. -/
theorem head?_of_head?_lower (h : t.lower.head? = some d) (hd : d.toNat < 0x61) :
    t.head? = some d := by
  cases t with
  | nil => exact h
  | cons c t =>
    obtain ⟨piece, hpiece, heq⟩ := exists_lowerAfter_cons [] c t
    rw [lower, heq, List.head?_append_of_ne_nil piece hpiece.ne_nil] at h
    obtain rfl | ⟨hd', -⟩ := hpiece.eq_or (List.mem_of_head? h)
    · rfl
    · omega

/-- **No end of a text becomes blank.** -/
theorem bare_lower (h : Bare CodePoint.isBlank t) : Bare CodePoint.isBlank t.lower := by
  constructor
  · intro d hd
    cases t with
    | nil => cases hd
    | cons c t =>
      obtain ⟨piece, hpiece, heq⟩ := exists_lowerAfter_cons [] c t
      rw [lower, heq, List.head?_append_of_ne_nil piece hpiece.ne_nil] at hd
      exact hpiece.isBlank (h.head c rfl) d (List.mem_of_head? hd)
  · intro d hd
    obtain rfl | ⟨t, c, rfl⟩ := t.eq_nil_or_concat
    · cases hd
    · rw [List.concat_eq_append] at h hd
      obtain ⟨u, piece, hpiece, heq⟩ := exists_lowerAfter_concat [] t c
      have hlast := h.last c (by rw [List.getLast?_concat]; rfl)
      rw [lower, heq, List.getLast?_append_of_ne_nil u hpiece.ne_nil] at hd
      exact hpiece.isBlank hlast d (List.mem_of_getLast? hd)

/-- **Trimming may come first or last.** -/
theorem trim_lower (t : Text) : t.lower.trim = t.trim.lower := by
  obtain ⟨before, after, hbefore, hafter, ht⟩ := around_dropAround CodePoint.isBlank t
  have hbreaks {u : Text} (hu : ∀ c ∈ u, c.isBlank = true) : ∀ c ∈ u, c.Breaks := fun c hc =>
    CodePoint.breaks_of_isBlank (hu c hc)
  have hlower : t.lower = before ++ t.trim.lower ++ after := by
    conv_lhs => rw [ht]
    rw [lower_append_breaks (hbreaks hafter), lower_append_of_breaks (hbreaks hbefore)]
    rfl
  exact dropAround_of_around ⟨before, after, hbefore, hafter, hlower⟩
    (bare_lower (bare_dropAround _ t))

end Text

end FeatureFlags

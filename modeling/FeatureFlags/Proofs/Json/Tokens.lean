import FeatureFlags.Proofs.Checked
import FeatureFlags.Proofs.Json.ReadBack
import FeatureFlags.Proofs.Text.Parts

/-!
# Proofs/Json/Tokens — what reading a token leaves

A token is read from the beginning of a text, and what is left is the end of it (`Leaves`).  A
numeral opens with its whole part (`number_or`), and it is refused for its length if that part is
too long and nothing continues it (`Overlong`), and otherwise read (`number_cases`).
-/

namespace FeatureFlags

open Json.Parser

namespace Json

variable {s t u w rest : Text} {v : Json} {negative : Bool}

/-! ## What is left -/

/-- **What is left of a text** once something has been read from it. -/
def Leaves (s t : Text) : Prop := ∃ p, p ≠ [] ∧ s = p ++ t

namespace Leaves

theorem suffix (h : Leaves s t) : t <:+ s := by
  obtain ⟨p, -, rfl⟩ := h
  exact List.suffix_append p t

theorem length_lt (h : Leaves s t) : t.length < s.length := by
  obtain ⟨p, hp, rfl⟩ := h
  rw [List.length_append]
  exact Nat.lt_add_of_pos_left (List.length_pos_iff.2 hp)

theorem of_cons {c : CodePoint} (h : t <:+ s) : Leaves (c :: s) t := by
  obtain ⟨p, rfl⟩ := h
  exact ⟨c :: p, List.cons_ne_nil c p, rfl⟩

theorem trans_suffix (h : Leaves s t) (h' : u <:+ t) : Leaves s u := by
  obtain ⟨p, hp, rfl⟩ := h
  obtain ⟨q, rfl⟩ := h'
  exact ⟨p ++ q, List.append_ne_nil_of_left_ne_nil hp q, (List.append_assoc p q u).symm⟩

end Leaves

theorem skip_suffix (s : Text) : skip s <:+ s := List.dropWhile_suffix isSpace

/-- What stands behind blanks and a mark. -/
theorem leaves_of_skip {c : CodePoint} (h : skip s = c :: t) : Leaves s t := by
  obtain ⟨p, hp⟩ := skip_suffix s
  rw [h] at hp
  exact ⟨p ++ [c], by simp, by rw [← hp, List.append_assoc]; rfl⟩

theorem suffix_of_skip {c : CodePoint} (h : skip s = c :: t) : t <:+ s := (leaves_of_skip h).suffix

/-! ## Strings -/

theorem suffix_of_fourHex? {n : Nat} (h : fourHex? s = some (n, t)) : t <:+ s := by
  unfold fourHex? at h
  split at h
  · rename_i a b c d x r
    obtain ⟨m, -, hm⟩ := Option.bind_eq_some_iff.1 h
    cases hm
    exact List.suffix_append [a, b, c, d] (x :: r)
  · cases h

theorem suffix_of_scanString {opening x : Text} (h : scanString opening s = .ok (x, t)) :
    t <:+ s := by
  fun_induction scanString opening s generalizing x with
  | case1 | case3 | case4 | case6 | case8 => cases h
  | case2 s =>
    cases h
    exact List.suffix_cons _ t
  | case5 s n rest hhex _ ih =>
    obtain ⟨⟨y, r⟩, hscan, heq⟩ := map_eq_ok_iff.1 h
    cases heq
    exact ((ih hscan).trans (suffix_of_fourHex? hhex)).trans (List.suffix_append [_, _] s)
  | case7 c s d _ _ ih =>
    obtain ⟨⟨y, r⟩, hscan, heq⟩ := map_eq_ok_iff.1 h
    cases heq
    exact (ih hscan).trans (List.suffix_append [_, _] s)
  | case9 c s _ _ _ _ _ ih =>
    obtain ⟨⟨y, r⟩, hscan, heq⟩ := map_eq_ok_iff.1 h
    cases heq
    exact (ih hscan).trans (List.suffix_cons c s)

theorem suffix_of_string {x : Text} (h : string s = .ok (x, t)) : t <:+ s := by
  obtain ⟨⟨y, r⟩, hscan, hy⟩ := map_eq_ok_iff.1 h
  cases hy
  exact suffix_of_scanString hscan

/-! ## Constants -/

/-- A constant opens with its name, which is told from a string, an array, an object and the end of
an array. -/
theorem leaves_of_constant? (h : constant? s = some (v, t)) :
    Leaves s t ∧ Plain s ∧ s.head? ≠ some (.scalar ']') := by
  obtain ⟨⟨name, w⟩, hmem, hafter⟩ := List.exists_of_findSome?_eq_some h
  obtain ⟨rest, hrest, heq⟩ := Option.map_eq_some_iff.1 hafter
  cases heq
  obtain rfl := Text.after?_eq_some_iff.1 hrest
  simp only [constants, List.mem_cons, List.not_mem_nil, or_false] at hmem
  rcases hmem with ⟨⟨⟩, -⟩ | ⟨⟨⟩, -⟩ | ⟨⟨⟩, -⟩ | ⟨⟨⟩, -⟩ | ⟨⟨⟩, -⟩ | ⟨⟨⟩, -⟩
  all_goals exact ⟨⟨_, by decide, rfl⟩, plain_cons (by decide),
    fun h => absurd (Option.some.inj h) (by decide)⟩

/-! ## The parts of a numeral -/

theorem splitSign_eq (s : Text) : s = signedText (splitSign s).1 (splitSign s).2 := by
  unfold splitSign
  split <;> rfl

theorem digits_eq (s : Text) : digits s = (s.takeWhile isDigit, s.dropWhile isDigit) :=
  List.span_eq_takeWhile_dropWhile isDigit s

theorem undigit_dropWhile (s : Text) : Undigit (s.dropWhile isDigit) := by
  intro c hc
  have hhead := List.head?_dropWhile_not isDigit s
  rw [Option.mem_def.1 hc] at hhead
  simpa using hhead

/-- The whole part that is split off, and what is left: this opens with a digit only behind a
zero. -/
theorem splitWhole_eq (s : Text) : s = (splitWhole s).1 ++ (splitWhole s).2 ∧
    ((splitWhole s).1 ≠ [] → Whole (splitWhole s).1) ∧
    ((splitWhole s).1 ≠ "0" → Undigit (splitWhole s).2) := by
  unfold splitWhole
  split
  · exact ⟨rfl, fun _ => whole_ofNat 0, fun h => absurd rfl h⟩
  · rename_i hzero
    rw [digits_eq]
    refine ⟨List.takeWhile_append_dropWhile.symm, fun hne => ⟨hne, ?_, ?_⟩, fun _ => ?_⟩
    · exact fun c hc => List.mem_takeWhile_imp hc
    · intro hhead
      obtain ⟨t, ht⟩ := List.head?_eq_some_iff.1 hhead
      have hs : s = .scalar '0' :: (t ++ s.dropWhile isDigit) :=
        List.takeWhile_append_dropWhile.symm.trans (congrArg (· ++ s.dropWhile isDigit) ht)
      exact absurd hs (hzero _)
    · exact undigit_dropWhile s

theorem takeWhile_isDigit_ne_nil_iff :
    s.takeWhile isDigit ≠ [] ↔ ∃ d t, isDigit d = true ∧ s = d :: t := by
  cases s with
  | nil => exact iff_of_false (fun h => h rfl) (by rintro ⟨_, _, _, ⟨⟩⟩)
  | cons c s =>
    rw [List.takeWhile_cons]
    by_cases hc : isDigit c = true
    · rw [if_pos hc]
      exact iff_of_true (List.cons_ne_nil _ _) ⟨c, s, hc, rfl⟩
    · rw [if_neg hc]
      refine iff_of_false (fun h => h rfl) ?_
      rintro ⟨_, _, hd, ⟨⟩⟩
      exact hc hd

/-- A point and a digit open a fraction. -/
def OpensFraction (s : Text) : Prop := ∃ d t, isDigit d = true ∧ s = .scalar '.' :: d :: t

/-- A letter and a digit, which may have a sign, open an exponent. -/
def OpensExponent (s : Text) : Prop :=
  ∃ c t d u, (c = .scalar 'e' ∨ c = .scalar 'E') ∧ s = c :: t ∧ isDigit d = true ∧
    (Numeral.sign t).2 = d :: u

theorem fraction_of_opens (h : OpensFraction s) :
    (fraction s).1 ≠ [] ∧ (fraction s).2 <:+ s := by
  obtain ⟨d, t, hd, rfl⟩ := h
  have hdigits : (d :: t).takeWhile isDigit ≠ [] := takeWhile_isDigit_ne_nil_iff.2 ⟨d, t, hd, rfl⟩
  rw [fraction, digits_eq]
  split
  · rename_i h
    exact absurd (congrArg Prod.fst h) hdigits
  · rename_i h
    cases h
    exact ⟨hdigits, (List.dropWhile_suffix _).trans (List.suffix_cons _ _)⟩

theorem fraction_of_not_opens (h : ¬ OpensFraction s) : fraction s = ([], s) := by
  unfold fraction
  split
  · rename_i t
    rw [digits_eq]
    split
    · rfl
    · rename_i hne heq
      cases heq
      obtain ⟨d, u, hd, rfl⟩ := takeWhile_isDigit_ne_nil_iff.1 hne
      exact absurd ⟨d, u, hd, rfl⟩ h
  · rfl

theorem sign_suffix (s : Text) : (Numeral.sign s).2 <:+ s := by
  unfold Numeral.sign
  split
  · exact List.suffix_cons _ _
  · exact List.suffix_cons _ _
  · exact List.suffix_rfl

theorem exponent_of_opens (h : OpensExponent s) :
    (exponent s).1 ≠ none ∧ (exponent s).2 <:+ s := by
  obtain ⟨c, t, d, u, hc, rfl, hd, hu⟩ := h
  have hdigits : (d :: u).takeWhile isDigit ≠ [] := takeWhile_isDigit_ne_nil_iff.2 ⟨d, u, hd, rfl⟩
  have hsuffix : (d :: u).dropWhile isDigit <:+ c :: t :=
    ((List.dropWhile_suffix _).trans (hu ▸ sign_suffix t)).trans (List.suffix_cons c t)
  rw [exponent, if_pos hc]
  dsimp only
  rw [hu, digits_eq]
  split
  · rename_i h
    exact absurd (congrArg Prod.fst h) hdigits
  · rename_i h
    cases h
    exact ⟨Option.some_ne_none _, hsuffix⟩

theorem exponent_of_not_opens (h : ¬ OpensExponent s) : exponent s = (none, s) := by
  unfold exponent
  split
  · rename_i c t
    split
    · rename_i hc
      dsimp only
      rw [digits_eq]
      split
      · rfl
      · rename_i hne heq
        cases heq
        obtain ⟨d, u, hd, hu⟩ := takeWhile_isDigit_ne_nil_iff.1 hne
        exact absurd ⟨c, t, d, u, hc, rfl, hd, hu⟩ h
    · rfl
  · rfl

theorem fraction_suffix (s : Text) : (fraction s).2 <:+ s := by
  by_cases h : OpensFraction s
  · exact (fraction_of_opens h).2
  · simp only [fraction_of_not_opens h, List.suffix_refl]

theorem exponent_suffix (s : Text) : (exponent s).2 <:+ s := by
  by_cases h : OpensExponent s
  · exact (exponent_of_opens h).2
  · simp only [exponent_of_not_opens h, List.suffix_refl]

/-! ## Numerals -/

/-- **What continues a numeral**: a fraction or an exponent. -/
def Continues (s : Text) : Prop := OpensFraction s ∨ OpensExponent s

/-- Without a fraction and an exponent a number is whole. -/
theorem numberFrom_of_not_continues (h : ¬ Continues s) (negative : Bool) (w : Text) :
    numberFrom negative w s = match Numeral.ofDigits (values w) with
      | .error o => .error (.overlong o)
      | .ok n => .ok (.int (Numeral.signed negative n), s) := by
  obtain ⟨hfraction, hexponent⟩ := not_or.1 h
  rw [numberFrom, fraction_of_not_opens hfraction]
  dsimp only
  rw [exponent_of_not_opens hexponent]
  rfl

/-- With a fraction or an exponent it is not. -/
theorem numberFrom_of_continues (h : Continues s) (negative : Bool) (w : Text) :
    ∃ x t, numberFrom negative w s = .ok (.float x, t) ∧ t <:+ s := by
  have hparts : ¬ ((fraction s).1.isEmpty ∧ (exponent (fraction s).2).1.isNone) := by
    rintro ⟨hfraction, hexponent⟩
    have hnot : ¬ OpensFraction s := fun hopens =>
      (fraction_of_opens hopens).1 (List.isEmpty_iff.1 hfraction)
    rw [fraction_of_not_opens hnot] at hexponent
    exact (exponent_of_opens (h.resolve_left hnot)).1 (Option.isNone_iff_eq_none.1 hexponent)
  exact ⟨_, _, if_neg hparts, (exponent_suffix _).trans (fraction_suffix s)⟩

theorem length_values {w : Text} (h : ∀ c ∈ w, isDigit c = true) :
    (values w).length = w.length := by
  induction w with
  | nil => rfl
  | cons c w ih =>
    obtain ⟨hc, hw⟩ := List.forall_mem_cons.1 h
    obtain ⟨d, hd⟩ := Option.isSome_iff_exists.1 hc
    have hcons : values (c :: w) = d :: values w := List.filterMap_cons_some hd
    rw [hcons, List.length_cons, ih hw, List.length_cons]

/-- **A number opens a text**: a sign, a whole part, and what stands behind that. -/
structure OpensNumber (s : Text) (negative : Bool) (w rest : Text) : Prop where
  eq : s = signedText negative (w ++ rest)
  whole : Whole w
  undigit : w ≠ "0" → Undigit rest

/-- **What is read as a number opens with one**; anything else is refused at once. -/
theorem number_or (s : Text) : number s = .error (.malformed .value s) ∨
    ∃ negative w rest, OpensNumber s negative w rest ∧ number s = numberFrom negative w rest := by
  obtain ⟨hsplit, hwhole, hundigit⟩ := splitWhole_eq (splitSign s).2
  by_cases hempty : (splitWhole (splitSign s).2).1.isEmpty
  · left
    rw [number_eq, if_pos hempty]
  · right
    have hne : (splitWhole (splitSign s).2).1 ≠ [] := fun h => hempty (List.isEmpty_iff.2 h)
    refine ⟨_, _, _, ⟨?_, hwhole hne, hundigit⟩, by rw [number_eq, if_neg hempty]⟩
    rw [← hsplit]
    exact splitSign_eq s

theorem OpensNumber.leaves (h : OpensNumber s negative w rest) : Leaves s rest := by
  obtain ⟨rfl, hwhole, -⟩ := h
  cases negative with
  | false => exact ⟨w, hwhole.ne_nil, rfl⟩
  | true => exact ⟨.scalar '-' :: w, List.cons_ne_nil _ _, rfl⟩

/-- **A whole number of too many digits**, which no fraction and no exponent continues. -/
def Overlong (s : Text) : Prop :=
  ∃ negative w rest, s = signedText negative (w ++ rest) ∧ Whole w ∧ Undigit rest ∧
    ¬ Continues rest ∧ Numeral.digitLimit < w.length

theorem number_eq_overlong (hwhole : Whole w) (hundigit : Undigit rest)
    (hcontinues : ¬ Continues rest) (hlength : Numeral.digitLimit < w.length) (negative : Bool) :
    number (signedText negative (w ++ rest)) = .error (.overlong ⟨w.length⟩) := by
  rw [number_whole hwhole hundigit, numberFrom_of_not_continues hcontinues, Numeral.ofDigits,
    length_values hwhole.isDigit, if_pos hlength]

theorem number_of_overlong (h : Overlong s) : ∃ o, number s = .error (.overlong o) := by
  obtain ⟨negative, w, rest, rfl, hwhole, hundigit, hcontinues, hlength⟩ := h
  exact ⟨_, number_eq_overlong hwhole hundigit hcontinues hlength negative⟩

/-- **A number is refused only for its length**, once it has been told that it is one. -/
theorem number_cases (s : Text) : number s = .error (.malformed .value s) ∨
    (∃ o, number s = .error (.overlong o)) ∧ Overlong s ∨
    ∃ v t, number s = .ok (v, t) ∧ Leaves s t := by
  obtain hvalue | ⟨negative, w, rest, hopens, hnumber⟩ := number_or s
  · exact .inl hvalue
  right
  by_cases hcontinues : Continues rest
  · right
    obtain ⟨x, t, hfloat, ht⟩ := numberFrom_of_continues hcontinues negative w
    exact ⟨_, t, hnumber.trans hfloat, hopens.leaves.trans_suffix ht⟩
  rw [numberFrom_of_not_continues hcontinues, Numeral.ofDigits,
    length_values hopens.whole.isDigit] at hnumber
  by_cases hlength : Numeral.digitLimit < w.length
  · left
    rw [if_pos hlength] at hnumber
    have hzero : w ≠ "0" := by
      rintro rfl
      exact absurd hlength (by decide)
    exact ⟨⟨_, hnumber⟩, negative, w, rest, hopens.eq, hopens.whole, hopens.undigit hzero,
      hcontinues, hlength⟩
  · right
    rw [if_neg hlength] at hnumber
    exact ⟨_, _, hnumber, hopens.leaves⟩

theorem leaves_of_number (h : number s = .ok (v, t)) : Leaves s t := by
  obtain hvalue | ⟨⟨o, hoverlong⟩, -⟩ | ⟨w, u, hread, hleaves⟩ := number_cases s
  · cases h.symm.trans hvalue
  · cases h.symm.trans hoverlong
  · cases h.symm.trans hread
    exact hleaves

/-- **What is told to be a number** is read as one where a value is read, and does not end an
array. -/
theorem value_eq_number (h : number s ≠ .error (.malformed .value s)) :
    (∀ fuel depth, value (fuel + 1) depth s = number s) ∧ s.head? ≠ some (.scalar ']') := by
  obtain ⟨negative, w, rest, hopens, -⟩ := (number_or s).resolve_left h
  rw [hopens.eq]
  refine ⟨fun fuel depth => value_signedText hopens.whole rest, ?_⟩
  have hhead : Opens (signedText negative (w ++ rest)) := opens_signedText hopens.whole rest
  obtain ⟨c, t, heq, -, hbracket⟩ := hhead
  rw [heq]
  exact fun h => hbracket (Option.some.inj h)

end Json

end FeatureFlags

import FeatureFlags.Proofs.Text.Parts
import FeatureFlags.Text.Numeral
import Mathlib.Data.Nat.Digits.Defs

/-!
# Proofs/Text/Decimal — numerals as they are written, and what reading them gives

A decimal is an optional sign and digits of any script, one at least (`Decimal`).  It denotes its
digits in the decimal system, the first one the most significant, and this is what is read off it as
long as its digits are within the limit (`integer?_of_decimal`).  The generous form reads mere digits
alike (`generous?_of_digits`).
-/

namespace FeatureFlags

namespace CodePoint

variable {c e : CodePoint} {d : Nat}

/-- A digit stands behind the zero of its script. -/
theorem exists_first_of_digit? (h : c.digit? = some d) :
    ∃ first ∈ digitZeros, c.toNat = first + d ∧ d < 10 := by
  obtain ⟨first, hf, rfl⟩ := Option.map_eq_some_iff.1 h
  have hmem := List.mem_of_find?_eq_some hf
  have hin := List.find?_some hf
  simp only [Bool.and_eq_true, decide_eq_true_eq] at hin
  exact ⟨first, hmem, by omega, by omega⟩

theorem ne_of_digit? (h : c.digit? = some d) (he : e.digit? = none) : c ≠ e := by
  rintro rfl
  rw [h] at he
  cases he

theorem isWhiteSpace_of_digit? (h : c.digit? = some d) : c.isWhiteSpace = false := by
  obtain ⟨first, hf, hc, hd⟩ := exists_first_of_digit? h
  have hapart : ∀ first ∈ digitZeros, ∀ r ∈ whiteSpaceRanges, first + 9 < r.1 ∨ r.2 < first := by
    decide +kernel
  rw [isWhiteSpace, Bool.eq_false_iff, ne_eq, Range.mem_eq_true_iff]
  rintro ⟨r, hr, hlow, hhigh⟩
  have hr := hapart first hf r hr
  omega

theorem isBlank_of_digit? (h : c.digit? = some d) : c.isBlank = false := by
  obtain ⟨first, hf, hc, hd⟩ := exists_first_of_digit? h
  have hbehind : ∀ first ∈ digitZeros, 0x1F < first := by decide +kernel
  have hfirst := hbehind first hf
  rw [isBlank, isWhiteSpace_of_digit? h, Bool.false_or, Bool.and_eq_false_iff]
  exact .inr (decide_eq_false (by omega))

end CodePoint

namespace Numeral

variable {t : Text} {ds : List Nat} {negative : Bool}

/-! ## Digits -/

/-- **Digits**, one at least, and their values. -/
def Digits (t : Text) (ds : List Nat) : Prop := t ≠ [] ∧ t.map CodePoint.digit? = ds.map some

/-- A code point among digits is a digit. -/
theorem Digits.digit? (h : Digits t ds) {c : CodePoint} (hc : c ∈ t) : ∃ d, c.digit? = some d := by
  have hmem : c.digit? ∈ ds.map some := h.2 ▸ List.mem_map_of_mem hc
  obtain ⟨d, -, hd⟩ := List.mem_map.1 hmem
  exact ⟨d, hd.symm⟩

theorem Digits.notMem (h : Digits t ds) {c : CodePoint} (hc : c.digit? = none) : c ∉ t := by
  intro hmem
  obtain ⟨d, hd⟩ := h.digit? hmem
  exact CodePoint.ne_of_digit? hd hc rfl

theorem mapM_digit?_eq_some_iff :
    t.mapM CodePoint.digit? = some ds ↔ t.map CodePoint.digit? = ds.map some := by
  induction t generalizing ds with
  | nil => cases ds <;> simp
  | cons c t ih =>
    have hcons : (c :: t).mapM CodePoint.digit? = some ds ↔
        ∃ d, c.digit? = some d ∧ ∃ ds', t.mapM CodePoint.digit? = some ds' ∧ d :: ds' = ds := by
      simp [Option.bind_eq_some_iff]
    rw [hcons]
    cases ds with
    | nil => simp
    | cons d ds => simp [ih]

theorem digits?_eq_some_iff : digits? t = some ds ↔ Digits t ds := by
  cases t with
  | nil => simp [digits?, Digits]
  | cons c t =>
    rw [digits?, Digits, and_iff_right (List.cons_ne_nil c t), ← mapM_digit?_eq_some_iff]
    rfl

/-- **The value of digits is positional**, in the decimal system. -/
theorem value_eq_ofDigits (ds : List Nat) : value ds = Nat.ofDigits 10 ds.reverse := by
  rw [Nat.ofDigits_eq_foldr, List.foldr_reverse, value]
  refine congrArg (fun f => ds.foldl f 0) (funext fun n => funext fun d => ?_)
  simp [Nat.add_comm]

/-! ## Decimals -/

/-- **A decimal**: an optional sign, and digits. -/
inductive Decimal : Text → Bool → List Nat → Prop
  | plain {t : Text} {ds : List Nat} (h : Digits t ds) : Decimal t false ds
  | plus {t : Text} {ds : List Nat} (h : Digits t ds) : Decimal (.scalar '+' :: t) false ds
  | minus {t : Text} {ds : List Nat} (h : Digits t ds) : Decimal (.scalar '-' :: t) true ds

/-- **The integer of a sign and digits.** -/
def integer (negative : Bool) (ds : List Nat) : Int :=
  signed negative (Nat.ofDigits 10 ds.reverse)

/-- Digits have no sign of their own. -/
theorem sign_of_digits (h : Digits t ds) : sign t = (false, t) := by
  cases t with
  | nil => rfl
  | cons c t =>
    obtain ⟨d, hd⟩ := h.digit? List.mem_cons_self
    rw [sign]
    · rintro u hu
      exact CodePoint.ne_of_digit? hd (e := .scalar '-') (by decide) (List.cons.inj hu).1
    · rintro u hu
      exact CodePoint.ne_of_digit? hd (e := .scalar '+') (by decide) (List.cons.inj hu).1

/-- **Digits within the limit** are read as the number they denote. -/
theorem ofDigits_eq_ok (h : ds.length ≤ digitLimit) :
    (ofDigits ds).map (signed negative) = .ok (integer negative ds) := by
  rw [ofDigits, if_neg (Nat.not_lt.2 h), integer, ← value_eq_ofDigits]
  rfl

/-- **Digits beyond the limit** are not read. -/
theorem ofDigits_eq_error (h : digitLimit < ds.length) :
    (ofDigits ds).map (signed negative) = .error ⟨ds.length⟩ := by
  rw [ofDigits, if_pos h]
  rfl

theorem integer?_of_decimal (h : Decimal t negative ds) :
    integer? t = some ((ofDigits ds).map (signed negative)) := by
  have hread {u : Text} (hu : Digits u ds) (hs : sign t = (negative, u)) :
      integer? t = some ((ofDigits ds).map (signed negative)) := by
    rw [integer?, hs]
    change (digits? u).map _ = _
    rw [digits?_eq_some_iff.2 hu]
    rfl
  cases h with
  | plain hd => exact hread hd (sign_of_digits hd)
  | plus hd => exact hread hd rfl
  | minus hd => exact hread hd rfl

/-- **Only decimals are read.** -/
theorem exists_decimal_of_integer? {r : Except Overlong Int} (h : integer? t = some r) :
    ∃ negative ds, Decimal t negative ds := by
  obtain ⟨ds, hds, -⟩ := Option.map_eq_some_iff.1 h
  rw [digits?_eq_some_iff] at hds
  split at hds
  · exact ⟨_, _, .minus hds⟩
  · exact ⟨_, _, .plus hds⟩
  · exact ⟨_, _, .plain hds⟩

/-- There are no blanks in a decimal. -/
theorem Decimal.bare_isBlank (h : Decimal t negative ds) : t.Bare CodePoint.isBlank := by
  have hdigits {u : Text} (hu : Digits u ds) : ∀ c ∈ u, c.isBlank = false := by
    intro c hc
    obtain ⟨d, hd⟩ := hu.digit? hc
    exact CodePoint.isBlank_of_digit? hd
  refine .of_forall ?_
  cases h with
  | plain hd => exact hdigits hd
  | plus hd => exact List.forall_mem_cons.2 ⟨by decide, hdigits hd⟩
  | minus hd => exact List.forall_mem_cons.2 ⟨by decide, hdigits hd⟩

/-! ## The generous form -/

theorem spacedDigits?_of_digits (h : Digits t ds) : spacedDigits? t = some ds := by
  have hspace := h.notMem (c := .scalar '_') (by decide)
  obtain ⟨hne, h⟩ := h
  fun_induction spacedDigits? t generalizing ds with
  | case1 => exact absurd rfl hne
  | case2 c =>
    obtain ⟨d, rfl, hd⟩ : ∃ d, ds = [d] ∧ c.digit? = some d := by
      simpa [eq_comm, List.map_eq_singleton_iff] using h
    rw [hd]
    rfl
  | case3 => exact absurd (List.mem_cons_of_mem _ List.mem_cons_self) hspace
  | case4 c t ht _ ih =>
    cases ds with
    | nil => cases h
    | cons d ds =>
      obtain ⟨hc, hds⟩ := List.cons.inj h
      rw [hc, ih (fun hmem => hspace (List.mem_cons_of_mem c hmem)) (fun hnil => ht hnil) hds]
      rfl

/-- **Mere digits** are read by the generous form as they are. -/
theorem generous?_of_digits (h : Digits t ds) :
    generous? t = some ((ofDigits ds).map (signed false)) := by
  have htrim : t.trimSpace = t := by
    refine Text.dropAround_of_bare (.of_forall fun c hc => ?_)
    obtain ⟨d, hd⟩ := h.digit? hc
    exact CodePoint.isWhiteSpace_of_digit? hd
  rw [generous?, htrim, sign_of_digits h]
  change (spacedDigits? t).map _ = _
  rw [spacedDigits?_of_digits h]
  rfl

end Numeral

end FeatureFlags

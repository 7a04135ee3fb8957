import FeatureFlags.Json.Parser
import FeatureFlags.Json.Printer
import Mathlib.Data.List.TakeDrop

/-!
# Proofs/Json/Number — numbers as they are written, and what reading them gives

A whole number is read as it was written if its digits are within the limit (`number_renderInt`).
A binary fraction is written with a fraction or an exponent in every layout
(`exists_parts_renderFloat`), so it is read as a binary fraction again, and nothing of it is left
(`exists_number_float`).
-/

namespace FeatureFlags

open Json.Parser

namespace Json

variable {s t rest : Text} {n : Nat}

/-! ## What may stand behind a value -/

/-- **What may stand behind a value**: nothing, a comma or a closing bracket. -/
def Stops (s : Text) : Prop :=
  ∀ c ∈ s.head?, c = .scalar ',' ∨ c = .scalar ']' ∨ c = .scalar '\x7d'

/-- A text that does not open with a digit. -/
def Undigit (s : Text) : Prop := ∀ c ∈ s.head?, isDigit c = false

theorem undigit_cons {c : CodePoint} (h : isDigit c = false) : Undigit (c :: s) := by
  rintro _ ⟨⟩
  exact h

theorem Stops.head_ne (h : Stops s) {c : CodePoint}
    (hc : c ∉ ([.scalar ',', .scalar ']', .scalar '\x7d'] : Text)) : s.head? ≠ some c := by
  intro hs
  refine hc ?_
  rcases h c hs with rfl | rfl | rfl <;> decide

theorem Stops.undigit (h : Stops s) : Undigit s := by
  intro c hc
  rcases h c hc with rfl | rfl | rfl <;> decide

/-! ## Digits -/

theorem isDigit_scalar (c : Char) : isDigit (.scalar c) = c.isDigit := by
  rw [isDigit, CodePoint.asciiDigit?, Char.isDigit]
  split <;> simp_all [Char.le_def]

theorem digits_append (ht : ∀ c ∈ t, isDigit c = true) (hs : Undigit s) :
    digits (t ++ s) = (t, s) := by
  have htake : s.takeWhile isDigit = [] := by
    cases s with
    | nil => rfl
    | cons c s => rw [List.takeWhile_cons, hs c rfl]; rfl
  have hdrop : s.dropWhile isDigit = s := by
    cases s with
    | nil => rfl
    | cons c s => rw [List.dropWhile_cons, hs c rfl]; rfl
  rw [digits, List.span_eq_takeWhile_dropWhile, List.takeWhile_append_of_pos ht, htake,
    List.append_nil, List.dropWhile_append_of_pos ht, hdrop]

/-- Characters that are digits. -/
def DigitChars (cs : List Char) : Prop := ∀ c ∈ cs, c.isDigit = true

theorem digitChars_toDigits (n : Nat) : DigitChars (Nat.toDigits 10 n) := fun _ hc =>
  Nat.isDigit_of_mem_toDigits (by decide) (by decide) hc

theorem digitChars_zeros (k : Nat) : DigitChars (List.replicate k '0') := by
  intro c hc
  rw [List.eq_of_mem_replicate hc]
  decide

theorem DigitChars.append {cs cs' : List Char} (h : DigitChars cs) (h' : DigitChars cs') :
    DigitChars (cs ++ cs') := fun c hc => (List.mem_append.1 hc).elim (h c) (h' c)

theorem DigitChars.isDigit {cs : List Char} (h : DigitChars cs) :
    ∀ c ∈ Text.ofChars cs, Parser.isDigit c = true := by
  intro _ hc
  obtain ⟨c, hmem, rfl⟩ := List.mem_map.1 hc
  rw [isDigit_scalar]
  exact h c hmem

theorem ofChars_ne_nil {cs : List Char} (h : cs ≠ []) : Text.ofChars cs ≠ [] := by
  simpa [Text.ofChars] using h

/-- **No leading zero** is written. -/
theorem head_toDigits (h : 0 < n) : (Nat.toDigits 10 n).head? ≠ some '0' := by
  induction n using Nat.strongRecOn with
  | ind n ih =>
    by_cases hn : n < 10
    · rw [Nat.toDigits_of_lt_base hn]
      have hzero : ∀ n < 10, 0 < n → n.digitChar ≠ '0' := by decide
      exact fun he => hzero n hn h (Option.some.inj he)
    · have hne : Nat.toDigits 10 (n / 10) ≠ [] := Nat.toDigits_ne_nil
      obtain ⟨c, cs, hcs⟩ := List.exists_cons_of_ne_nil hne
      have htens := ih (n / 10) (by omega) (by omega)
      rw [hcs] at htens
      rw [Nat.toDigits_of_base_le (by decide) (Nat.not_lt.1 hn), hcs]
      exact htens

theorem values_ofChars {cs : List Char} (h : DigitChars cs) :
    values (Text.ofChars cs) = cs.map fun c => c.toNat - '0'.toNat := by
  induction cs with
  | nil => rfl
  | cons c cs ih =>
    obtain ⟨hc, hcs⟩ := List.forall_mem_cons.1 h
    have hdigit : (CodePoint.scalar c).asciiDigit? = some (c.toNat - '0'.toNat) := by
      refine if_pos ?_
      simpa [Char.isDigit, Char.le_def] using hc
    rw [List.map_cons, ← ih hcs]
    exact List.filterMap_cons_some hdigit

/-- **The digits of a number denote it.** -/
theorem value_values_ofNat (n : Nat) : Numeral.value (values (Text.ofNat n)) = n := by
  rw [Text.ofNat, values_ofChars (digitChars_toDigits n), Numeral.value, List.foldl_map]
  exact Nat.ofDigitChars_toDigits (by decide) (by decide)

theorem length_values_ofNat (n : Nat) :
    (values (Text.ofNat n)).length = (Nat.toDigits 10 n).length := by
  rw [Text.ofNat, values_ofChars (digitChars_toDigits n), List.length_map]

/-! ## The parts of a number -/

/-- **The whole part of a number**: digits, without a leading zero unless it is the only one. -/
structure Whole (w : Text) : Prop where
  ne_nil : w ≠ []
  isDigit : ∀ c ∈ w, Parser.isDigit c = true
  zero : w.head? = some (.scalar '0') → w = [.scalar '0']

/-- A whole part opens with a digit, and with nothing else. -/
theorem Whole.exists_cons {w : Text} (hw : Whole w) :
    ∃ c t, w = c :: t ∧ ∀ {e : CodePoint}, Parser.isDigit e = false → c ≠ e := by
  obtain ⟨c, t, rfl⟩ := List.exists_cons_of_ne_nil hw.ne_nil
  refine ⟨c, t, rfl, fun he => ?_⟩
  rintro rfl
  rw [hw.isDigit c List.mem_cons_self] at he
  cases he

theorem DigitChars.whole {cs : List Char} (h : DigitChars cs) (hne : cs ≠ [])
    (hhead : cs.head? ≠ some '0') : Whole (Text.ofChars cs) where
  ne_nil := ofChars_ne_nil hne
  isDigit := h.isDigit
  zero hzero := by
    rw [Text.ofChars, List.head?_map, Option.map_eq_some_iff] at hzero
    obtain ⟨c, hc, hzero⟩ := hzero
    rw [CodePoint.scalar.inj hzero] at hc
    exact absurd hc hhead

theorem whole_ofNat (n : Nat) : Whole (Text.ofNat n) := by
  rcases Nat.eq_zero_or_pos n with rfl | hn
  · exact ⟨by decide, by decide, fun _ => rfl⟩
  · exact (digitChars_toDigits n).whole Nat.toDigits_ne_nil (head_toDigits hn)

/-- A fraction, or none. -/
inductive Fraction : Text → Prop
  | absent : Fraction []
  | present {ds : Text} (hne : ds ≠ []) (hds : ∀ c ∈ ds, isDigit c = true) :
      Fraction (.scalar '.' :: ds)

/-- An exponent with its sign, or none. -/
inductive Exponent : Text → Prop
  | absent : Exponent []
  | present {sign : CodePoint} {ds : Text} (hsign : sign = .scalar '+' ∨ sign = .scalar '-')
      (hne : ds ≠ []) (hds : ∀ c ∈ ds, isDigit c = true) :
      Exponent (.scalar 'e' :: sign :: ds)

/-- A number with its sign. -/
def signedText (negative : Bool) (t : Text) : Text := if negative then .scalar '-' :: t else t

/-- What a number is once its whole part has been read. -/
def numberFrom (negative : Bool) (whole t : Text) : Step Json :=
  let (frac, t) := fraction t
  let (power, t) := exponent t
  if frac.isEmpty ∧ power.isNone then
    match Numeral.ofDigits (values whole) with
    | .error o => .error (.overlong o)
    | .ok n => .ok (.int (Numeral.signed negative n), t)
  else
    let coefficient := Numeral.value (values (whole ++ frac))
    .ok (.float (.ofDecimal negative coefficient (power.getD 0 - frac.length)), t)

/-- The sign of a number. -/
def splitSign : Text → Bool × Text
  | .scalar '-' :: t => (true, t)
  | t => (false, t)

/-- The whole part of a number, which a zero ends at once. -/
def splitWhole : Text → Text × Text
  | .scalar '0' :: t => ("0", t)
  | t => digits t

theorem number_eq (s : Text) :
    number s = if (splitWhole (splitSign s).2).1.isEmpty then .error (.malformed .value s)
      else numberFrom (splitSign s).1 (splitWhole (splitSign s).2).1
        (splitWhole (splitSign s).2).2 := rfl

theorem splitSign_signedText {w : Text} (hw : Whole w) (negative : Bool) :
    splitSign (signedText negative (w ++ s)) = (negative, w ++ s) := by
  cases negative with
  | true => rfl
  | false =>
    obtain ⟨c, w, rfl, hc⟩ := hw.exists_cons
    change splitSign (c :: (w ++ s)) = _
    rw [splitSign]
    · rfl
    · intro _ h
      exact hc (by decide) (List.cons.inj h).1

theorem splitWhole_append {w : Text} (hw : Whole w) (hs : Undigit s) :
    splitWhole (w ++ s) = (w, s) := by
  unfold splitWhole
  split
  · rename_i t ht
    obtain ⟨c, w, rfl⟩ := List.exists_cons_of_ne_nil hw.ne_nil
    obtain ⟨rfl, rfl⟩ := List.cons.inj ht
    obtain ⟨-, rfl⟩ := List.cons.inj (hw.zero rfl)
    rfl
  · exact digits_append hw.isDigit hs

/-- **The whole part is read first.** -/
theorem number_whole {w : Text} (hw : Whole w) (hs : Undigit s) (negative : Bool) :
    number (signedText negative (w ++ s)) = numberFrom negative w s := by
  have hne : w.isEmpty = false := List.isEmpty_eq_false_iff.2 hw.ne_nil
  rw [number_eq, splitSign_signedText hw, splitWhole_append hw hs]
  dsimp only
  rw [hne, if_neg Bool.false_ne_true]

/-- A fraction is read, if there is one. -/
theorem fraction_append {f : Text} (hf : Fraction f) (hs : Undigit s)
    (hpoint : s.head? ≠ some (.scalar '.')) : fraction (f ++ s) = (f.tail, s) := by
  cases hf with
  | absent =>
    cases s with
    | nil => rfl
    | cons c s =>
      rw [List.nil_append, fraction]
      · rfl
      · rintro _ h
        exact hpoint (congrArg List.head? h)
  | @present ds hne hds =>
    obtain ⟨c, ds, rfl⟩ := List.exists_cons_of_ne_nil hne
    change fraction (.scalar '.' :: (c :: ds ++ s)) = _
    rw [fraction, digits_append hds hs]
    rfl

/-- An exponent is read, if there is one. -/
theorem exists_exponent {e : Text} (he : Exponent e) :
    ∃ power, (power = none ↔ e = []) ∧ ∀ s, Stops s → exponent (e ++ s) = (power, s) := by
  cases he with
  | absent =>
    refine ⟨none, iff_of_true rfl rfl, fun s hs => ?_⟩
    cases s with
    | nil => rfl
    | cons c s =>
      have hc : ¬ (c = .scalar 'e' ∨ c = .scalar 'E') := by
        rcases hs c rfl with rfl | rfl | rfl <;> decide
      rw [List.nil_append, exponent, if_neg hc]
  | @present sign ds hsign hne hds =>
    obtain ⟨d, ds, rfl⟩ := List.exists_cons_of_ne_nil hne
    obtain ⟨negative, hnegative⟩ : ∃ negative, ∀ s,
        Numeral.sign (sign :: (d :: ds ++ s)) = (negative, d :: ds ++ s) := by
      rcases hsign with rfl | rfl
      · exact ⟨false, fun _ => rfl⟩
      · exact ⟨true, fun _ => rfl⟩
    refine ⟨some (Numeral.signed negative (Numeral.value (values (d :: ds)))),
      iff_of_false (Option.some_ne_none _) (List.cons_ne_nil _ _), fun s hs => ?_⟩
    change exponent (.scalar 'e' :: (sign :: (d :: ds ++ s))) = _
    rw [exponent, if_pos (.inl rfl), hnegative]
    dsimp only
    rw [digits_append hds hs.undigit]

/-- What opens with an exponent, or with nothing that belongs to a number. -/
theorem Exponent.head_append {e : Text} (he : Exponent e) (hs : Stops s) :
    Undigit (e ++ s) ∧ (e ++ s).head? ≠ some (.scalar '.') := by
  cases he with
  | absent => exact ⟨hs.undigit, hs.head_ne (by decide)⟩
  | present => exact ⟨undigit_cons (by decide), by simp⟩

/-- **What is read once the whole part has been read**: a whole number if nothing else is there. -/
theorem exists_numberFrom {f e : Text} (w : Text) (hf : Fraction f) (he : Exponent e)
    (negative : Bool) :
    ∃ x, ∀ rest, Stops rest → numberFrom negative w (f ++ (e ++ rest)) =
      if f = [] ∧ e = [] then
        match Numeral.ofDigits (values w) with
        | .error o => .error (.overlong o)
        | .ok n => .ok (.int (Numeral.signed negative n), rest)
      else .ok (.float x, rest) := by
  obtain ⟨power, hnone, hpower⟩ := exists_exponent he
  have hiff : (f.tail.isEmpty ∧ power.isNone) ↔ f = [] ∧ e = [] := by
    rw [Option.isNone_iff_eq_none, hnone]
    cases hf with
    | absent => simp
    | present hne => simp [hne]
  refine ⟨.ofDecimal negative (Numeral.value (values (w ++ f.tail)))
    (power.getD 0 - f.tail.length), fun rest hrest => ?_⟩
  obtain ⟨hundigit, hpoint⟩ := he.head_append hrest
  simp only [numberFrom, fraction_append hf hundigit hpoint, hpower rest hrest, hiff]

/-! ## Whole numbers and binary fractions -/

theorem signedText_append (negative : Bool) (t rest : Text) :
    signedText negative t ++ rest = signedText negative (t ++ rest) := by
  cases negative <;> rfl

/-- An integer is written with its sign and its digits. -/
theorem ofChars_renderInt (z : Int) :
    Text.ofChars (renderInt z) = signedText (z < 0) (Text.ofNat z.natAbs) := by
  cases z with
  | ofNat n => rfl
  | negSucc n =>
    rw [decide_eq_true (Int.negSucc_lt_zero n)]
    rfl

/-- **A whole number within the limit** is read as it was written. -/
theorem number_renderInt {z : Int} (hz : (Nat.toDigits 10 z.natAbs).length ≤ Numeral.digitLimit)
    (hrest : Stops rest) :
    number (signedText (z < 0) (Text.ofNat z.natAbs ++ rest)) = .ok (.int z, rest) := by
  have hsigned : Numeral.signed (z < 0) z.natAbs = z := by
    cases z with
    | ofNat n => rfl
    | negSucc n =>
      rw [decide_eq_true (Int.negSucc_lt_zero n)]
      rfl
  have hofDigits : Numeral.ofDigits (values (Text.ofNat z.natAbs)) = .ok z.natAbs := by
    rw [Numeral.ofDigits, length_values_ofNat, if_neg (Nat.not_lt.2 hz), value_values_ofNat]
  obtain ⟨x, hx⟩ := exists_numberFrom (Text.ofNat z.natAbs) .absent .absent (z < 0)
  have hx := hx rest hrest
  rw [if_pos ⟨rfl, rfl⟩, hofDigits] at hx
  dsimp only at hx
  rw [hsigned] at hx
  rw [number_whole (whole_ofNat _) hrest.undigit]
  exact hx

/-- **What has a fraction or an exponent** is read as a binary fraction. -/
theorem exists_number_float {w f e : Text} (hw : Whole w) (hf : Fraction f) (he : Exponent e)
    (hfe : ¬ (f = [] ∧ e = [])) (negative : Bool) :
    ∃ x, ∀ rest, Stops rest →
      number (signedText negative (w ++ (f ++ (e ++ rest)))) = .ok (.float x, rest) := by
  obtain ⟨x, hx⟩ := exists_numberFrom w hf he negative
  refine ⟨x, fun rest hrest => ?_⟩
  have hundigit : Undigit (f ++ (e ++ rest)) := by
    cases hf with
    | absent => exact (he.head_append hrest).1
    | present => exact undigit_cons (by decide)
  rw [number_whole hw hundigit, hx rest hrest, if_neg hfe]

/-! ## Layouts -/

theorem DigitChars.fraction {cs : List Char} (h : DigitChars cs) (hne : cs ≠ []) :
    Fraction (Text.ofChars ('.' :: cs)) :=
  .present (ofChars_ne_nil hne) h.isDigit

theorem DigitChars.exponent {cs : List Char} (h : DigitChars cs) (hne : cs ≠ []) (below : Prop)
    [Decidable below] : Exponent (Text.ofChars ('e' :: (if below then '-' else '+') :: cs)) := by
  refine .present ?_ (ofChars_ne_nil hne) h.isDigit
  split
  · exact .inr rfl
  · exact .inl rfl

/-- **A decimal other than zero** is laid out with a fraction or an exponent. -/
theorem exists_parts_layout {d : Binary64.Decimal} (hd : d.coefficient ≠ 0) :
    ∃ w f e : List Char, Whole (Text.ofChars w) ∧ Fraction (Text.ofChars f) ∧
      Exponent (Text.ofChars e) ∧ ¬ (f = [] ∧ e = []) ∧ d.layout = w ++ (f ++ e) := by
  have hdigits := digitChars_toDigits d.coefficient
  have hhead := head_toDigits (Nat.pos_of_ne_zero hd)
  have hne : Nat.toDigits 10 d.coefficient ≠ [] := Nat.toDigits_ne_nil
  unfold Binary64.Decimal.layout
  generalize Nat.toDigits 10 d.coefficient = cs at hdigits hhead hne ⊢
  dsimp only
  generalize ((cs.length : Int) + d.exponent) = point
  have htake {k : Nat} (hk : k ≠ 0) : Whole (Text.ofChars (cs.take k)) := by
    refine DigitChars.whole (fun c hc => hdigits c (List.mem_of_mem_take hc)) ?_ ?_
    · simp [hk, hne]
    · rwa [List.head?_take, if_neg hk]
  have hdrop {k : Nat} : DigitChars (cs.drop k) := fun c hc => hdigits c (List.mem_of_mem_drop hc)
  split
  · split
    · -- the point stands before all digits
      refine ⟨['0'], '.' :: (List.replicate (-point).toNat '0' ++ cs), [], ?_, ?_, .absent, by simp,
        by simp⟩
      · exact ⟨by decide, by decide, fun _ => rfl⟩
      · exact ((digitChars_zeros _).append hdigits).fraction (by simp [hne])
    · split
      · -- behind all digits
        refine ⟨cs ++ List.replicate (point.toNat - cs.length) '0', ".0".toList, [], ?_, ?_,
          .absent, by simp, by simp⟩
        · refine (hdigits.append (digitChars_zeros _)).whole (by simp [hne]) ?_
          obtain ⟨c, cs, rfl⟩ := List.exists_cons_of_ne_nil hne
          exact hhead
        · exact .present (by decide) (by decide)
      · -- among the digits
        refine ⟨cs.take point.toNat, '.' :: cs.drop point.toNat, [], htake (by omega), ?_, .absent,
          by simp, by simp⟩
        refine hdrop.fraction ?_
        rw [ne_eq, List.drop_eq_nil_iff]
        omega
  · -- one digit, and an exponent
    have hexponent (ds : List Char) (hds : DigitChars ds) (hne : ds ≠ []) :
        Exponent (Text.ofChars ('e' :: (if point - 1 < 0 then '-' else '+')
          :: (if ds.length < 2 then '0' :: ds else ds))) := by
      refine DigitChars.exponent ?_ (by split <;> simp [hne]) _
      split
      · exact List.forall_mem_cons.2 ⟨rfl, hds⟩
      · exact hds
    refine ⟨cs.take 1, if (cs.drop 1).isEmpty then [] else '.' :: cs.drop 1, _,
      htake Nat.one_ne_zero, ?_, hexponent _ (digitChars_toDigits (point - 1).natAbs)
      Nat.toDigits_ne_nil, by simp, by simp⟩
    split
    · exact .absent
    · rename_i hrest
      exact hdrop.fraction (by simpa using hrest)

theorem coefficient_stripZeros (fuel : Nat) {d : Binary64.Decimal} (hd : d.coefficient ≠ 0) :
    (d.stripZeros fuel).coefficient ≠ 0 := by
  induction fuel generalizing d with
  | zero => exact hd
  | succ fuel ih =>
    rw [Binary64.Decimal.stripZeros]
    split
    · refine ih ?_
      change d.coefficient / 10 ≠ 0
      omega
    · exact hd

theorem power_pos (b : Nat) (hb : 0 < b) (i : Int) : 0 < Binary64.power b i := Nat.pow_pos hb

/-- A decimal that is zero reads back to nothing positive. -/
theorem coefficient_of_readsBack {m : Nat} (hm : m ≠ 0) {e : Int} {d : Binary64.Decimal}
    (h : Binary64.readsBack m e d = true) : d.coefficient ≠ 0 := by
  intro hd
  have hlow (n : Nat) (hn : 0 < n) (j : Int) :
      Binary64.compareScaled 0 d.exponent n j = .lt := by
    rw [Binary64.compareScaled, Nat.zero_mul, Nat.zero_mul]
    refine Nat.compare_eq_lt.2 (Nat.mul_pos (Nat.mul_pos hn (power_pos 2 (by decide) j)) ?_)
    exact power_pos 10 (by decide) _
  unfold Binary64.readsBack at h
  rw [decide_eq_true_eq, hd, hlow _ (by split <;> omega)] at h
  rcases h.1 with h | ⟨-, h⟩ <;> cases h

theorem roundDiv_ne_zero {num den : Nat} (h : num / den ≠ 0) : Binary64.roundDiv num den ≠ 0 := by
  unfold Binary64.roundDiv
  dsimp only
  split
  · exact h
  · split
    · exact Nat.succ_ne_zero _
    · split
      · exact h
      · exact Nat.succ_ne_zero _

theorem coefficient_onGrid {m : Nat} (hm : m ≠ 0) {e grid : Int} {d : Binary64.Decimal}
    (h : Binary64.onGrid m e grid = some d) : d.coefficient ≠ 0 := by
  unfold Binary64.onGrid at h
  dsimp only at h
  split at h
  · rename_i hbelow _
    cases h
    exact roundDiv_ne_zero (coefficient_of_readsBack hm hbelow)
  · rename_i hbelow _
    cases h
    exact coefficient_of_readsBack hm hbelow
  · rename_i _ habove
    cases h
    exact coefficient_of_readsBack hm habove
  · cases h

/-- What stands for a positive value is not zero. -/
theorem coefficient_shortest {m : Nat} (hm : m ≠ 0) (e : Int) :
    (Binary64.shortest m e).coefficient ≠ 0 := by
  refine coefficient_stripZeros 400 ?_
  generalize hfound : (List.range 17).findSome? _ = found
  cases found with
  | some d =>
    obtain ⟨k, -, hk⟩ := List.exists_of_findSome?_eq_some hfound
    exact coefficient_onGrid hm hk
  | none =>
    have htwo := power_pos 2 (by decide) e
    have hfive := power_pos 5 (by decide) (-e)
    exact Nat.mul_ne_zero (Nat.mul_ne_zero hm (Nat.ne_of_gt htwo)) (Nat.ne_of_gt hfive)

/-- **A finite value** is written as a whole part with a fraction or an exponent. -/
theorem exists_parts_renderFloat (negative : Bool) (m : Nat) (exponent : Int) :
    ∃ w f e, Whole w ∧ Fraction f ∧ Exponent e ∧ ¬ (f = [] ∧ e = []) ∧
      Text.ofChars (renderFloat (.finite negative m exponent))
        = signedText negative (w ++ (f ++ e)) := by
  obtain ⟨w, f, e, hw, hf, he, hfe, hbody⟩ : ∃ w f e : List Char, Whole (Text.ofChars w) ∧
      Fraction (Text.ofChars f) ∧ Exponent (Text.ofChars e) ∧ ¬ (f = [] ∧ e = []) ∧
      (if m = 0 then "0.0".toList else (Binary64.shortest m exponent).layout) = w ++ (f ++ e) := by
    by_cases hm : m = 0
    · refine ⟨['0'], ['.', '0'], [], ?_, ?_, .absent, by simp, if_pos hm⟩
      · exact ⟨by decide, by decide, fun _ => rfl⟩
      · exact .present (by decide) (by decide)
    · rw [if_neg hm]
      exact exists_parts_layout (coefficient_shortest hm exponent)
  refine ⟨_, _, _, hw, hf, he, by simpa [Text.ofChars] using hfe, ?_⟩
  rw [renderFloat, hbody]
  cases negative <;> simp [signedText, Text.ofChars]

end Json

end FeatureFlags

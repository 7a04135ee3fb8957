import FeatureFlags.Proofs.Json.Number
import FeatureFlags.Proofs.Text.Decimal
import FeatureFlags.Reading

/-!
# Proofs/Text/Natural — natural numbers as they are written, and what reading them gives

A natural number is written in its digits, without a leading zero.  Both the generous form of
integers and the plain form read it as itself as long as its digits are within the limit
(`generous?_ofNat`, `integerOfText_ofNat`); beyond the limit neither of them reads it.
-/

namespace FeatureFlags

open Json Json.Parser

variable {n : Nat}

/-- **A number is short** if its digits are within the limit. -/
def Numeral.Short (n : Nat) : Prop := (Nat.toDigits 10 n).length ≤ digitLimit

instance (n : Nat) : Decidable (Numeral.Short n) :=
  inferInstanceAs (Decidable ((Nat.toDigits 10 n).length ≤ Numeral.digitLimit))

/-! ## Their digits -/

/-- ASCII digits are digits. -/
theorem CodePoint.digit?_of_asciiDigit? {c : CodePoint} {d : Nat} (h : c.asciiDigit? = some d) :
    c.digit? = some d := by
  cases c with
  | surrogate => cases h
  | scalar c =>
    obtain ⟨hc, rfl⟩ : ('0' ≤ c ∧ c ≤ '9') ∧ c.toNat - 48 = d := by
      simpa [asciiDigit?] using h
    have hc : 48 ≤ c.toNat ∧ c.toNat < 58 := ⟨hc.1, Nat.lt_succ_of_le hc.2⟩
    have hzero : digitZeros.find? (fun first => first ≤ c.toNat && c.toNat < first + 10)
        = some 48 := List.find?_cons_of_pos (by simpa using hc)
    exact congrArg (Option.map (c.toNat - ·)) hzero

theorem isDigit_ofNat (n : Nat) : ∀ c ∈ Text.ofNat n, isDigit c = true :=
  (digitChars_toDigits n).isDigit

theorem map_digit?_of_isDigit {t : Text} (h : ∀ c ∈ t, isDigit c = true) :
    t.map CodePoint.digit? = (values t).map some := by
  induction t with
  | nil => rfl
  | cons c t ih =>
    obtain ⟨hc, ht⟩ := List.forall_mem_cons.1 h
    obtain ⟨d, hd⟩ := Option.isSome_iff_exists.1 hc
    have hvalues : values (c :: t) = d :: values t := List.filterMap_cons_some hd
    rw [hvalues, List.map_cons, List.map_cons, CodePoint.digit?_of_asciiDigit? hd, ih ht]

/-- **A natural number is written in digits**, and they denote it. -/
theorem digits_ofNat (n : Nat) : Numeral.Digits (Text.ofNat n) (values (Text.ofNat n)) :=
  ⟨(whole_ofNat n).ne_nil, map_digit?_of_isDigit (isDigit_ofNat n)⟩

theorem ofDigits_of_short (h : Numeral.Short n) :
    Numeral.ofDigits (values (Text.ofNat n)) = .ok n := by
  rw [Numeral.ofDigits, length_values_ofNat, if_neg (Nat.not_lt.2 h), value_values_ofNat]

theorem ofDigits_of_not_short (h : ¬ Numeral.Short n) :
    ∃ o, Numeral.ofDigits (values (Text.ofNat n)) = .error o := by
  rw [Numeral.ofDigits, length_values_ofNat, if_pos (Nat.lt_of_not_le h)]
  exact ⟨_, rfl⟩

/-! ## The generous form -/

theorem generous?_ofNat (h : Numeral.Short n) :
    Numeral.generous? (Text.ofNat n) = some (.ok n) := by
  rw [Numeral.generous?_of_digits (digits_ofNat n), ofDigits_of_short h]
  rfl

theorem generous?_ofNat_of_not_short (h : ¬ Numeral.Short n) :
    ∃ o, Numeral.generous? (Text.ofNat n) = some (.error o) := by
  obtain ⟨o, ho⟩ := ofDigits_of_not_short h
  exact ⟨o, by rw [Numeral.generous?_of_digits (digits_ofNat n), ho]; rfl⟩

/-! ## The plain form -/

namespace Reading

/-- A text of digits in the plain form: what counts is its first digit, and their number. -/
theorem plainInteger_of_isDigit {t : Text} (h : ∀ c ∈ t, isDigit c = true) : plainInteger t
    = match values t with
      | [] => .error .intParsing
      | 0 :: more => if more.isEmpty then .ok 0 else .error .intParsing
      | ds => if Numeral.digitLimit < ds.length then .error .intParsingSize
        else .ok (Numeral.signed false (Numeral.value ds)) := by
  have htake : t.takeWhile isAsciiDigit = t := List.takeWhile_eq_self_iff.2 h
  unfold plainInteger
  split
  rename_i negative body hbody
  obtain ⟨rfl, rfl⟩ : negative = false ∧ body = t := by
    split at hbody
    · exact absurd (h _ List.mem_cons_self) Bool.false_ne_true
    · cases hbody
      exact ⟨rfl, rfl⟩
  simp only [htake, and_true, if_true]
  rfl

/-- Only zero is written with a leading zero. -/
theorem ofNat_of_values {ds : List Nat} (h : values (Text.ofNat n) = 0 :: ds) :
    Text.ofNat n = [.scalar '0'] := by
  have hwhole := whole_ofNat n
  obtain ⟨c, t, hct⟩ := List.exists_cons_of_ne_nil hwhole.ne_nil
  obtain ⟨d, hd⟩ := Option.isSome_iff_exists.1 (hwhole.isDigit c (hct ▸ List.mem_cons_self))
  have hvalues : values (c :: t) = d :: values t := List.filterMap_cons_some hd
  rw [hct, hvalues] at h
  obtain ⟨rfl, -⟩ := List.cons.inj h
  refine hwhole.zero ?_
  rw [hct]
  cases c with
  | surrogate => cases hd
  | scalar c =>
    obtain ⟨hc, hzero⟩ : ('0' ≤ c ∧ c ≤ '9') ∧ c.toNat - 48 = 0 := by
      simpa [CodePoint.asciiDigit?] using hd
    have hc : 48 ≤ c.toNat := hc.1
    have hc : c.toNat = '0'.toNat := Nat.le_antisymm (Nat.sub_eq_zero_iff_le.1 hzero) hc
    exact congrArg (some <| CodePoint.scalar ·) (Char.toNat_inj.1 hc)

/-- **The plain form of a number** is read as the number, if it is short. -/
theorem plainInteger_ofNat (n : Nat) : plainInteger (Text.ofNat n)
    = if Numeral.Short n then .ok n else .error .intParsingSize := by
  rw [plainInteger_of_isDigit (isDigit_ofNat n)]
  split
  · rename_i hnone
    exact absurd (congrArg List.length hnone) (by rw [length_values_ofNat]; simp)
  · rename_i more hzero
    have hn : Text.ofNat n = [.scalar '0'] := ofNat_of_values hzero
    have hvalue := value_values_ofNat n
    rw [hn] at hvalue hzero
    cases hzero
    cases hvalue
    exact (if_pos (by decide)).symm
  · rw [value_values_ofNat, length_values_ofNat]
    by_cases h : Numeral.Short n
    · rw [if_pos h, if_neg (Nat.not_lt.2 h)]
      rfl
    · rw [if_neg h, if_pos (Nat.lt_of_not_le h)]

/-- **A short number is read as itself.** -/
theorem integerOfText_ofNat (h : Numeral.Short n) : integerOfText (Text.ofNat n) = .ok n := by
  rw [integerOfText, plainInteger_ofNat, if_pos h]

/-- A number that is not short is refused for its size. -/
theorem integerOfText_ofNat_of_not_short (h : ¬ Numeral.Short n) :
    integerOfText (Text.ofNat n) = .error .intParsingSize := by
  rw [integerOfText, plainInteger_ofNat, if_neg h]

end Reading

end FeatureFlags

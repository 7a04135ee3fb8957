import FeatureFlags.Json.Parser
import FeatureFlags.Json.Printer
import FeatureFlags.Proofs.Text.CodePoint

/-!
# Proofs/Json/Escape — strings as they are written, and what reading them gives

A string is written code point by code point, one beyond U+FFFF as its two surrogates (`units`).
Reading finds these units again and pairs them, so it gives the text that was written, but for
surrogates of its own that stand as a pair (`string_escaped`).
-/

namespace FeatureFlags

namespace CodePoint

/-- **The units of a code point**: two surrogates beyond U+FFFF, otherwise the code point itself. -/
def units (c : CodePoint) : Text :=
  if c.toNat < 0x10000 then [c]
  else [ofNat (0xD800 + (c.toNat - 0x10000) / 0x400), ofNat (0xDC00 + (c.toNat - 0x10000) % 0x400)]

theorem units_of_lt {c : CodePoint} (h : c.toNat < 0x10000) : c.units = [c] := if_pos h

/-- **Beyond U+FFFF** the units are a high surrogate and a low one. -/
theorem units_of_le {c : CodePoint} (h : 0x10000 ≤ c.toNat) :
    ∃ high low : Fin 2048, c.units = [.surrogate high, .surrogate low] ∧ high < 0x400 ∧
      0x400 ≤ low ∧ ofNat (0x10000 + high * 0x400 + (low - 0x400)) = c := by
  have hrange := c.toNat_lt
  have hsurrogate (i : Fin 2048) : ofNat (0xD800 + i) = .surrogate i := ofNat_toNat (.surrogate i)
  refine ⟨⟨(c.toNat - 0x10000) / 0x400, by omega⟩, ⟨0x400 + (c.toNat - 0x10000) % 0x400, by omega⟩,
    ?_, ?_, ?_, ?_⟩
  · rw [units, if_neg (Nat.not_lt.2 h), ← hsurrogate, ← hsurrogate, ← Nat.add_assoc]
  · change (c.toNat - 0x10000) / 0x400 < 0x400
    omega
  · exact Nat.le_add_right 0x400 _
  · have hsum : 0x10000 + (c.toNat - 0x10000) / 0x400 * 0x400
        + (0x400 + (c.toNat - 0x10000) % 0x400 - 0x400) = c.toNat := by omega
    exact (congrArg ofNat hsum).trans (ofNat_toNat c)

theorem hexDigit?_hexDigit : ∀ d < 16, (scalar (Text.hexDigit d)).hexDigit? = some d := by decide

end CodePoint

/-! ## Pairing -/

namespace Text

theorem ofChars_append (cs cs' : List Char) : ofChars (cs ++ cs') = ofChars cs ++ ofChars cs' :=
  List.map_append

/-- Two surrogates that do not make a pair stay apart. -/
theorem pairSurrogates_cons_surrogate {high low : Fin 2048} (t : Text)
    (h : ¬ (high < 0x400 ∧ 0x400 ≤ low)) :
    pairSurrogates (.surrogate high :: .surrogate low :: t)
      = .surrogate high :: pairSurrogates (.surrogate low :: t) := by
  rw [pairSurrogates, if_neg h]

theorem pairSurrogates_units (t : Text) :
    pairSurrogates (t.flatMap CodePoint.units) = t.pairSurrogates := by
  have hsurrogate (i : Fin 2048) : (CodePoint.surrogate i).units = [.surrogate i] :=
    CodePoint.units_of_lt (by simp only [CodePoint.toNat]; omega)
  fun_induction pairSurrogates t with
  | case1 high low t h ih =>
    rw [List.flatMap_cons, List.flatMap_cons, hsurrogate, hsurrogate, ← ih]
    exact if_pos h
  | case2 high low t h ih =>
    rw [List.flatMap_cons, hsurrogate] at ih ⊢
    rw [List.flatMap_cons, hsurrogate, ← ih]
    exact pairSurrogates_cons_surrogate _ h
  | case3 c t ht ih =>
    rw [List.flatMap_cons, ← ih]
    by_cases hc : c.toNat < 0x10000
    · rw [CodePoint.units_of_lt hc, List.singleton_append]
      -- only a surrogate could be paired, and what follows opens with no low one
      cases c with
      | scalar c => rw [pairSurrogates]; rintro _ _ _ ⟨⟩
      | surrogate high =>
        cases t with
        | nil => rfl
        | cons d t =>
          by_cases hd : d.toNat < 0x10000
          · rw [List.flatMap_cons, CodePoint.units_of_lt hd, List.singleton_append]
            cases d with
            | scalar d => rw [pairSurrogates]; rintro _ _ _ _ ⟨⟩
            | surrogate low => exact (ht high low t rfl rfl).elim
          · obtain ⟨high', low, hunits, hhigh, -⟩ := CodePoint.units_of_le (Nat.not_lt.1 hd)
            rw [List.flatMap_cons, hunits]
            exact pairSurrogates_cons_surrogate _ fun h => Fin.not_lt.2 h.2 hhigh
    · obtain ⟨high, low, hunits, hhigh, hlow, heq⟩ := CodePoint.units_of_le (Nat.not_lt.1 hc)
      rw [hunits]
      change pairSurrogates (.surrogate high :: .surrogate low :: t.flatMap CodePoint.units) = _
      rw [pairSurrogates, if_pos ⟨hhigh, hlow⟩, heq]
  | case4 => rfl

/-- A text of characters has nothing to be paired. -/
theorem pairSurrogates_of_chars {t : Text} (h : ∀ c ∈ t, c.isSurrogate = false) :
    t.pairSurrogates = t := by
  induction t with
  | nil => rfl
  | cons c t ih =>
    obtain ⟨hc, ht⟩ := List.forall_mem_cons.1 h
    cases c with
    | surrogate => cases hc
    | scalar c => rw [pairSurrogates, ih ht]; rintro _ _ _ ⟨⟩

/-- Where no character beyond U+FFFF comes of pairing, nothing was paired. -/
theorem pairSurrogates_eq_self {t : Text} (h : ∀ c ∈ t.pairSurrogates, c.toNat < 0x10000) :
    t.pairSurrogates = t := by
  fun_induction pairSurrogates t with
  | case1 high low t hpair ih =>
    have hpaired := h _ List.mem_cons_self
    have hhigh : high.val < 0x400 := hpair.1
    rw [CodePoint.toNat_ofNat (by omega)] at hpaired
    omega
  | case2 high low t hpair ih => rw [ih fun c hc => h c (List.mem_cons_of_mem _ hc)]
  | case3 c t ht ih => rw [ih fun c' hc => h c' (List.mem_cons_of_mem _ hc)]
  | case4 => rfl

end Text

open Json.Parser

namespace Json

variable {opening s rest : Text} {n : Nat}

/-! ## Reading what was escaped -/

theorem fourHex?_hexDigits (hn : n < 0x10000) (hs : s ≠ []) :
    fourHex? (Text.ofChars (Text.hexDigits 4 n) ++ s) = some (n, s) := by
  obtain ⟨c, s, rfl⟩ := List.exists_cons_of_ne_nil hs
  have hdigit (k : Nat) : (CodePoint.scalar (Text.hexDigit (k % 16))).hexDigit? = some (k % 16) :=
    CodePoint.hexDigit?_hexDigit _ (Nat.mod_lt _ (by decide))
  have hvalue : 16 * (16 * (16 * (n / 16 / 16 / 16 % 16) + n / 16 / 16 % 16) + n / 16 % 16)
      + n % 16 = n := by omega
  simp [Text.hexDigits, Text.ofChars, fourHex?, hdigit, hvalue]

/-- A unit that was escaped by its number. -/
theorem scanString_unitEscape (hn : n < 0x10000) (hs : s ≠ []) :
    scanString opening (Text.ofChars (unitEscape n) ++ s)
      = (scanString opening s).map fun (text, r) => (CodePoint.ofNat n :: text, r) := by
  have hfour := fourHex?_hexDigits hn hs
  change scanString opening
    (.scalar '\\' :: .scalar 'u' :: (Text.ofChars (Text.hexDigits 4 n) ++ s)) = _
  rw [scanString]
  split
  · rename_i h
    rw [hfour] at h
    cases h
  · rename_i h
    rw [hfour] at h
    cases h
    rfl

/-- A code point that was escaped by its number is read as its units. -/
theorem scanString_numberEscape (c : CodePoint) (hs : s ≠ []) :
    scanString opening (Text.ofChars (numberEscape c.toNat) ++ s)
      = (scanString opening s).map fun (text, r) => (c.units ++ text, r) := by
  have hrange : c.toNat < 0x110000 := c.toNat_lt
  by_cases hc : c.toNat < 0x10000
  · rw [numberEscape, if_pos hc, scanString_unitEscape hc hs, CodePoint.units, if_pos hc,
      CodePoint.ofNat_toNat]
    rfl
  · have hhigh : 0xD800 + (c.toNat - 0x10000) / 0x400 < 0x10000 := by omega
    have hlow : 0xDC00 + (c.toNat - 0x10000) % 0x400 < 0x10000 := by omega
    have hne (n : Nat) : Text.ofChars (unitEscape n) ++ s ≠ [] := List.cons_ne_nil _ _
    rw [numberEscape, if_neg hc, CodePoint.units, if_neg hc, Text.ofChars_append,
      List.append_assoc, scanString_unitEscape hhigh (hne _), scanString_unitEscape hlow hs]
    cases scanString opening s <;> rfl

/-- A letter behind a backslash. -/
theorem scanString_letter {c d : CodePoint} (hc : unescape? c = some d) :
    scanString opening (.scalar '\\' :: c :: s)
      = (scanString opening s).map fun (text, r) => (d :: text, r) := by
  rw [scanString]
  · rw [hc]
  · rintro rfl
    cases hc

/-- A code point that stands for itself. -/
theorem scanString_plain {c : CodePoint} (hlow : 0x20 ≤ c.toNat) (hquote : c ≠ .scalar '"')
    (hslash : c ≠ .scalar '\\') :
    scanString opening (c :: s) = (scanString opening s).map fun (text, r) => (c :: text, r) := by
  rw [scanString, if_neg (Nat.not_lt.2 hlow)]
  · exact hquote
  · intro h _
    exact hslash h
  · intro _ h
    exact absurd h hslash
  · intro _ _ h
    exact absurd h hslash

/-- **A code point that was escaped** is read as its units. -/
theorem scanString_escapePoint (c : CodePoint) (hs : s ≠ []) :
    scanString opening (Text.ofChars (escapePoint c) ++ s)
      = (scanString opening s).map fun (text, r) => (c.units ++ text, r) := by
  unfold escapePoint
  split
  · exact scanString_letter rfl
  · exact scanString_letter rfl
  · exact scanString_letter rfl
  · exact scanString_letter rfl
  · exact scanString_letter rfl
  · exact scanString_letter rfl
  · exact scanString_letter rfl
  · rename_i c hquote hslash _ _ _ _ _
    split
    · rename_i hplain
      have hunits : (CodePoint.scalar c).units = [.scalar c] :=
        CodePoint.units_of_lt (Nat.lt_trans hplain.2 (by decide))
      rw [hunits]
      exact scanString_plain hplain.1 (fun h => hquote (CodePoint.scalar.inj h))
        (fun h => hslash (CodePoint.scalar.inj h))
    · exact scanString_numberEscape (.scalar c) hs
  · exact scanString_numberEscape (.surrogate _) hs

/-- **The inside of a string** is read as the units of its code points. -/
theorem scanString_escaped (t : Text) :
    scanString opening (Text.ofChars (t.flatMap escapePoint) ++ .scalar '"' :: rest)
      = .ok (t.flatMap CodePoint.units, rest) := by
  induction t with
  | nil => rw [List.flatMap_nil, Text.ofChars, List.map_nil, List.nil_append, scanString]; rfl
  | cons c t ih =>
    have hne : Text.ofChars (t.flatMap escapePoint) ++ .scalar '"' :: rest ≠ [] := by simp
    rw [List.flatMap_cons, Text.ofChars_append, List.append_assoc, scanString_escapePoint c hne, ih,
      List.flatMap_cons]
    rfl

/-- **A string is read as it was written**, its surrogates paired. -/
theorem string_escaped (t : Text) :
    string (Text.ofChars (t.flatMap escapePoint) ++ .scalar '"' :: rest)
      = .ok (t.pairSurrogates, rest) := by
  rw [string, scanString_escaped, ← Text.pairSurrogates_units]
  rfl

end Json

end FeatureFlags

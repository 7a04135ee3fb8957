import FeatureFlags.Json.Encoding
import FeatureFlags.Proofs.Json.Number
import FeatureFlags.Proofs.Text.Utf8
import FeatureFlags.Text.Lines

/-!
# Proofs/Json/Printable — a written value is one line of printable ASCII

Whatever a value holds, it is written with the characters from U+0020 to U+007E alone
(`printable_render`).  So no line end is there to be changed when its octets are decoded
(`decode_encode_render`, `unify_render`), and nothing there is taken for a mark of another encoding
(`textOf?_render`).
-/

namespace FeatureFlags

/-- **The printable characters** of ASCII. -/
def Printable (c : Char) : Prop := 0x20 ≤ c.toNat ∧ c.toNat < 0x7F

instance (c : Char) : Decidable (Printable c) := inferInstanceAs (Decidable (_ ∧ _))

/-- Characters that are told are looked at one by one. -/
theorem printable_of_all {cs : List Char} (h : cs.all fun c => decide (Printable c)) :
    ∀ c ∈ cs, Printable c := fun c hc => of_decide_eq_true (List.all_eq_true.1 h c hc)

namespace Json

theorem printable_hexDigits (width n : Nat) : ∀ c ∈ Text.hexDigits width n, Printable c := by
  have hdigit : ∀ d < 16, Printable (Text.hexDigit d) := by decide
  induction width generalizing n with
  | zero => exact fun c hc => absurd hc List.not_mem_nil
  | succ width ih =>
    intro c hc
    rcases List.mem_append.1 hc with hc | hc
    · exact ih _ c hc
    · rw [List.mem_singleton.1 hc]
      exact hdigit _ (Nat.mod_lt _ (by decide))

theorem printable_unitEscape (n : Nat) : ∀ c ∈ unitEscape n, Printable c :=
  List.forall_mem_cons.2 ⟨by decide, List.forall_mem_cons.2 ⟨by decide, printable_hexDigits 4 n⟩⟩

theorem printable_numberEscape (n : Nat) : ∀ c ∈ numberEscape n, Printable c := by
  unfold numberEscape
  split
  · exact printable_unitEscape n
  · exact List.forall_mem_append.2 ⟨printable_unitEscape _, printable_unitEscape _⟩

/-- **Every code point** is escaped to printable characters. -/
theorem printable_escapePoint (c : CodePoint) : ∀ e ∈ escapePoint c, Printable e := by
  unfold escapePoint
  split
  all_goals try exact printable_of_all rfl
  · split
    · rename_i h
      exact List.forall_mem_singleton.2 h
    · exact printable_numberEscape _
  · exact printable_numberEscape _

theorem printable_renderText (t : Text) : ∀ c ∈ renderText t, Printable c := by
  refine List.forall_mem_append.2 ⟨List.forall_mem_cons.2 ⟨by decide, fun c hc => ?_⟩,
    printable_of_all rfl⟩
  obtain ⟨p, -, hp⟩ := List.mem_flatMap.1 hc
  exact printable_escapePoint p c hp

theorem printable_of_isDigit {c : Char} (h : Parser.isDigit (.scalar c) = true) : Printable c := by
  rw [isDigit_scalar, Char.isDigit_iff_toNat] at h
  have h : 48 ≤ c.toNat ∧ c.toNat ≤ 57 := h
  exact ⟨by omega, by omega⟩

theorem printable_toDigits (n : Nat) : ∀ c ∈ Nat.toDigits 10 n, Printable c := fun c hc =>
  printable_of_isDigit ((isDigit_scalar c).trans (digitChars_toDigits n c hc))

theorem printable_renderInt (z : Int) : ∀ c ∈ renderInt z, Printable c := by
  cases z with
  | ofNat n => exact printable_toDigits n
  | negSucc n => exact List.forall_mem_cons.2 ⟨by decide, printable_toDigits (n + 1)⟩

/-- A text whose characters are printable. -/
def PrintableText (t : Text) : Prop := ∀ c, .scalar c ∈ t → Printable c

namespace PrintableText

variable {t u : Text}

theorem of_digits (h : ∀ c ∈ t, Parser.isDigit c = true) : PrintableText t := fun c hc =>
  printable_of_isDigit (h (.scalar c) hc)

theorem cons {c : Char} (hc : Printable c) (h : PrintableText t) :
    PrintableText (.scalar c :: t) := by
  intro e he
  rcases List.mem_cons.1 he with heq | he
  · rwa [CodePoint.scalar.inj heq]
  · exact h e he

theorem append (ht : PrintableText t) (hu : PrintableText u) : PrintableText (t ++ u) :=
  fun c hc => (List.mem_append.1 hc).elim (ht c) (hu c)

theorem of_fraction (h : Fraction t) : PrintableText t := by
  cases h with
  | absent => exact fun c hc => absurd hc List.not_mem_nil
  | present _ hds => exact (of_digits hds).cons (by decide)

theorem of_exponent (h : Exponent t) : PrintableText t := by
  cases h with
  | absent => exact fun c hc => absurd hc List.not_mem_nil
  | present hsign _ hds =>
    rcases hsign with rfl | rfl
    · exact ((of_digits hds).cons (by decide)).cons (by decide)
    · exact ((of_digits hds).cons (by decide)).cons (by decide)

end PrintableText

theorem printable_renderFloat (x : Binary64) : ∀ c ∈ renderFloat x, Printable c := by
  cases x with
  | nan => exact printable_of_all rfl
  | infinite negative => cases negative <;> exact printable_of_all rfl
  | finite negative m exponent =>
    obtain ⟨w, f, e, hw, hf, he, -, hparts⟩ := exists_parts_renderFloat negative m exponent
    have hbody : PrintableText (w ++ (f ++ e)) := .append (.of_digits hw.isDigit)
      (.append (.of_fraction hf) (.of_exponent he))
    have hsigned : PrintableText (signedText negative (w ++ (f ++ e))) := by
      cases negative with
      | false => exact hbody
      | true => exact hbody.cons (by decide)
    rw [← hparts] at hsigned
    exact fun c hc => hsigned c (List.mem_map_of_mem hc)

mutual

/-- **Every value is written with printable characters.** -/
theorem printable_render (v : Json) : ∀ c ∈ render v, Printable c := by
  cases v with
  | null => rw [render]; exact printable_of_all rfl
  | bool b => rw [render]; cases b <;> exact printable_of_all rfl
  | int z => rw [render]; exact printable_renderInt z
  | float x => rw [render]; exact printable_renderFloat x
  | str t => rw [render]; exact printable_renderText t
  | arr vs =>
    rw [render]
    exact List.forall_mem_append.2
      ⟨List.forall_mem_cons.2 ⟨by decide, printable_renderItems vs⟩, printable_of_all rfl⟩
  | obj fields =>
    rw [render]
    exact List.forall_mem_append.2
      ⟨List.forall_mem_cons.2 ⟨by decide, printable_renderFields fields⟩, printable_of_all rfl⟩

theorem printable_renderItems (vs : List Json) : ∀ c ∈ renderItems vs, Printable c := by
  match vs with
  | [] => rw [renderItems]; exact fun c hc => absurd hc List.not_mem_nil
  | [v] => rw [renderItems]; exact printable_render v
  | v :: w :: vs =>
    rw [renderItems]
    refine List.forall_mem_append.2 ⟨printable_render v, ?_⟩
    exact List.forall_mem_cons.2 ⟨by decide, List.forall_mem_cons.2
      ⟨by decide, printable_renderItems (w :: vs)⟩⟩

theorem printable_renderFields (fields : List (Text × Json)) :
    ∀ c ∈ renderFields fields, Printable c := by
  match fields with
  | [] => rw [renderFields]; exact fun c hc => absurd hc List.not_mem_nil
  | [(name, v)] =>
    rw [renderFields]
    refine List.forall_mem_append.2 ⟨printable_renderText name, ?_⟩
    exact List.forall_mem_cons.2 ⟨by decide, List.forall_mem_cons.2 ⟨by decide, printable_render v⟩⟩
  | (name, v) :: f :: fields =>
    rw [renderFields]
    refine List.forall_mem_append.2 ⟨List.forall_mem_append.2 ⟨printable_renderText name, ?_⟩, ?_⟩
    · exact List.forall_mem_cons.2
        ⟨by decide, List.forall_mem_cons.2 ⟨by decide, printable_render v⟩⟩
    · exact List.forall_mem_cons.2 ⟨by decide, List.forall_mem_cons.2
        ⟨by decide, printable_renderFields (f :: fields)⟩⟩

end

/-- **What was written is decoded as it was encoded.** -/
theorem decode_encode_render (v : Json) : Utf8.decode (Utf8.encode (render v)) = .ok (render v) :=
  Utf8.decodeFrom_encode _ 0

theorem unify_render (v : Json) : Lines.unify (render v) = render v :=
  Lines.unify_eq_self fun h => absurd (printable_render v _ h) (by decide)

/-! ## Telling the encoding -/

/-- The octets of printable characters are the numbers of these. -/
theorem printable_encode {cs : List Char} (h : ∀ c ∈ cs, Printable c) :
    ∀ o ∈ Utf8.encode cs, 0x20 ≤ o ∧ o < 0x7F := by
  intro o ho
  obtain ⟨c, hc, ho⟩ := List.mem_flatMap.1 ho
  obtain ⟨hle, hlt⟩ := h c hc
  have hchar : Utf8.encodeChar c = [c.toNat.toUInt8] := if_pos (by omega)
  rw [hchar] at ho
  rw [List.mem_singleton.1 ho, UInt8.le_iff_toNat_le, UInt8.lt_iff_toNat_lt,
    Utf8.toNat_toUInt8 (by omega)]
  exact ⟨hle, hlt⟩

/-- No mark stands before printable characters, and no zero among them. -/
theorem detect_of_printable {octets : List UInt8} (h : ∀ o ∈ octets, 0x20 ≤ o ∧ o < 0x7F) :
    Encoding.detect octets = (.utf8, octets) := by
  have hne {o : UInt8} (ho : o ∈ octets) : o ≠ 0 := by
    rintro rfl
    exact absurd (h 0 ho).1 (by decide)
  unfold Encoding.detect
  split
  · exact absurd (h _ List.mem_cons_self) (by decide)
  · exact absurd (h _ List.mem_cons_self) (by decide)
  · exact absurd (h _ List.mem_cons_self) (by decide)
  · exact absurd (h _ List.mem_cons_self) (by decide)
  · exact absurd (h _ List.mem_cons_self) (by decide)
  · refine congrArg (·, octets) ?_
    unfold Encoding.ofZeros
    split
    · rw [if_neg (hne (by simp)), if_neg (hne (by simp))]
    · rw [if_neg (hne (by simp)), if_neg (hne (by simp))]
    · rfl

/-- **The encoding of what was written is told**, so its text is found again. -/
theorem textOf?_render (v : Json) :
    textOf? (Utf8.encode (render v)) = some (.ofChars (render v)) := by
  rw [textOf?, detect_of_printable (printable_encode (printable_render v))]
  dsimp only
  rw [Encoding.decode, decode_encode_render]
  rfl
end Json

end FeatureFlags

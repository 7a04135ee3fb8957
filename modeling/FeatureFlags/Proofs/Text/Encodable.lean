import FeatureFlags.Proofs.Text.Utf8
import FeatureFlags.Text.Quoted

/-!
# Proofs/Text/Encodable — the texts that can be encoded

A text without surrogates is a text of characters (`encodable_iff`), and only such a text can be
printed and sent.  Numerals are such texts, and so are texts between quotes, whatever they quote
(`encodable_quoted`).
-/

namespace FeatureFlags

theorem CodePoint.isPrintable_surrogate (i : Fin 2048) :
    (CodePoint.surrogate i).isPrintable = false := by
  have hrange : ∃ r ∈ unprintableRanges, r.1 ≤ 0xD800 ∧ 0xDFFF ≤ r.2 := by decide +kernel
  obtain ⟨r, hr, hlow, hhigh⟩ := hrange
  have hi := i.isLt
  have hn : (CodePoint.surrogate i).toNat = 0xD800 + i := rfl
  have hmem : Range.mem unprintableRanges (CodePoint.surrogate i).toNat = true :=
    Range.mem_eq_true_iff.2 ⟨r, hr, by omega, by omega⟩
  rw [isPrintable, if_neg (by omega), hmem]
  rfl

namespace Text

/-- **A text that can be encoded** has no surrogate in it. -/
def Encodable (t : Text) : Prop := ∀ c ∈ t, c.isSurrogate = false

instance (t : Text) : Decidable t.Encodable :=
  inferInstanceAs (Decidable (∀ c ∈ t, c.isSurrogate = false))

variable {t u : Text}

/-- The texts that can be encoded are those of characters. -/
theorem encodable_iff : t.Encodable ↔ ∃ cs, t = ofChars cs := by
  constructor
  · intro h
    induction t with
    | nil => exact ⟨[], rfl⟩
    | cons c t ih =>
      obtain ⟨hc, ht⟩ := List.forall_mem_cons.1 h
      obtain ⟨cs, rfl⟩ := ih ht
      cases c with
      | scalar c => exact ⟨c :: cs, rfl⟩
      | surrogate => cases hc
  · rintro ⟨cs, rfl⟩ c hc
    obtain ⟨_, -, rfl⟩ := List.mem_map.1 hc
    rfl

theorem encodable_ofChars (cs : List Char) : (ofChars cs).Encodable := encodable_iff.2 ⟨cs, rfl⟩

theorem encodable_ofString (s : String) : (ofString s).Encodable := encodable_ofChars s.toList

theorem encodable_ofNat (n : Nat) : (ofNat n).Encodable := encodable_ofChars _

theorem encodable_ofInt (n : Int) : (ofInt n).Encodable := by
  cases n with
  | ofNat n => exact encodable_ofNat n
  | negSucc n => exact List.forall_mem_cons.2 ⟨rfl, encodable_ofNat _⟩

theorem Encodable.append (ht : t.Encodable) (hu : u.Encodable) : (t ++ u).Encodable :=
  List.forall_mem_append.2 ⟨ht, hu⟩

theorem Encodable.mono (h : u.Encodable) (htu : ∀ c ∈ t, c ∈ u) : t.Encodable :=
  fun c hc => h c (htu c hc)

theorem encodable_join {separator : Text} {ts : List Text} (hs : separator.Encodable)
    (h : ∀ t ∈ ts, t.Encodable) : (join separator ts).Encodable := by
  match ts with
  | [] => exact List.forall_mem_nil _
  | [t] => exact h t List.mem_cons_self
  | t :: u :: ts =>
    obtain ⟨ht, hts⟩ := List.forall_mem_cons.1 h
    rw [join]
    · exact (ht.append hs).append (encodable_join hs hts)
    · exact List.cons_ne_nil u ts

/-! ## Quotes -/

theorem encodable_quotedPoint {quote : Char} (c : CodePoint) :
    (quotedPoint (.scalar quote) c).Encodable := by
  unfold quotedPoint
  split
  · rename_i hescaped
    have hc : c.isSurrogate = false := by rcases hescaped with rfl | rfl <;> rfl
    exact List.forall_mem_cons.2 ⟨rfl, List.forall_mem_singleton.2 hc⟩
  split
  · exact encodable_ofString _
  · exact encodable_ofString _
  · exact encodable_ofString _
  split
  · rename_i hprintable
    cases c with
    | scalar => exact List.forall_mem_singleton.2 rfl
    | surrogate i =>
      rw [CodePoint.isPrintable_surrogate] at hprintable
      cases hprintable
  · exact encodable_ofChars _

/-- **A quoted text can be encoded**, whatever it quotes. -/
theorem encodable_quoted (t : Text) : t.quoted.Encodable := by
  refine List.forall_mem_append.2 ⟨List.forall_mem_cons.2 ⟨rfl, fun c hc => ?_⟩,
    List.forall_mem_singleton.2 rfl⟩
  obtain ⟨p, -, hp⟩ := List.mem_flatMap.1 hc
  exact encodable_quotedPoint p c hp

theorem encodable_quotedList (ts : List Text) : (quotedList ts).Encodable := by
  refine ((encodable_ofString _).append (encodable_join (encodable_ofString _) ?_)).append
    (encodable_ofString _)
  intro _ h
  obtain ⟨t, -, rfl⟩ := List.mem_map.1 h
  exact encodable_quoted t

end Text

end FeatureFlags

import FeatureFlags.Panel.Route
import FeatureFlags.Proofs.Json.Escape
import FeatureFlags.Proofs.Text.Parts
import FeatureFlags.Proofs.Text.Utf8

/-!
# Proofs/Panel/Percent — percent-encoded text is decoded to what it spells

A segment of a path spells a text (`Spells`): each character of the text either stands for itself,
which few do, or is written as the escapes of its octets, whose digits may be of either case.  A
text has many spellings, one of them with escapes only (`spells_encode`), and each is decoded to
that text, also behind other segments (`path_append_of_spells`).
-/

namespace FeatureFlags

namespace Percent

/-! ## Spellings -/

/-- The characters that may stand for themselves in a segment of a path. -/
def Plain (c : Char) : Prop := c.isAlphanum ∨ c ∈ "-._~!$&'()*+,;=:@".toList

/-- **Octets as escapes**, with digits of either case. -/
inductive Escapes : Text → List UInt8 → Prop
  | nil : Escapes [] []
  | cons {high low : CodePoint} {h l : Nat} {x : Text} {os : List UInt8}
      (hhigh : high.hexDigit? = some h) (hlow : low.hexDigit? = some l) (hx : Escapes x os) :
      Escapes (.scalar '%' :: high :: low :: x) ((16 * h + l).toUInt8 :: os)

/-- **A segment spells a text.** -/
inductive Spells : Text → Text → Prop
  | nil : Spells [] []
  | plain {c : Char} {x t : Text} (hc : Plain c) (hx : Spells x t) :
      Spells (.scalar c :: x) (.scalar c :: t)
  | escaped {c : Char} {e x t : Text} (he : Escapes e (Utf8.encodeChar c)) (hx : Spells x t) :
      Spells (e ++ x) (.scalar c :: t)

variable {c : Char} {e x t : Text} {os : List UInt8}

theorem Plain.ne {d : Char} (h : Plain c) (hd : ¬ d.isAlphanum ∧ d ∉ "-._~!$&'()*+,;=:@".toList) :
    c ≠ d := by
  rintro rfl
  exact h.elim hd.1 hd.2

theorem Escapes.notMem {d : Char} (h : Escapes e os) (hd : (CodePoint.scalar d).hexDigit? = none)
    (hpercent : d ≠ '%') : .scalar d ∉ e := by
  have hdigit {c : CodePoint} {n : Nat} (hc : c.hexDigit? = some n) : .scalar d ≠ c := by
    rintro rfl
    rw [hd] at hc
    cases hc
  induction h with
  | nil => exact List.not_mem_nil
  | cons hhigh hlow _ ih =>
    exact List.not_mem_cons_of_ne_of_not_mem (fun h => hpercent (CodePoint.scalar.inj h))
      (List.not_mem_cons_of_ne_of_not_mem (hdigit hhigh)
        (List.not_mem_cons_of_ne_of_not_mem (hdigit hlow) ih))

/-- No question mark stands in a segment. -/
theorem Spells.notMem (h : Spells x t) : .scalar '?' ∉ x := by
  induction h with
  | nil => exact List.not_mem_nil
  | plain hc _ ih =>
    exact List.not_mem_cons_of_ne_of_not_mem
      (fun h => hc.ne (by decide) (CodePoint.scalar.inj h).symm) ih
  | escaped he _ ih =>
    exact fun hmem => (List.mem_append.1 hmem).elim (he.notMem rfl (by decide)) ih

/-! ## Encoding gives a spelling -/

theorem escapes_escape (os : List UInt8) : Escapes (.ofChars (os.flatMap escape)) os := by
  induction os with
  | nil => exact .nil
  | cons o os ih =>
    have hlt : o.toNat / 16 < 16 := Nat.div_lt_of_lt_mul o.toNat_lt
    have hoctet : (16 * (o.toNat / 16 % 16) + o.toNat % 16).toUInt8 = o := by
      rw [Nat.mod_eq_of_lt hlt, Nat.div_add_mod]
      exact UInt8.ofNat_toNat
    have hcons := Escapes.cons
      (CodePoint.hexDigit?_hexDigit _ (Nat.mod_lt (o.toNat / 16) (by decide)))
      (CodePoint.hexDigit?_hexDigit _ (Nat.mod_lt o.toNat (by decide))) ih
    rwa [hoctet] at hcons

/-- **Every text of characters has a spelling.** -/
theorem spells_encode (cs : List Char) : Spells (encode (.ofChars cs)) (.ofChars cs) := by
  induction cs with
  | nil => exact .nil
  | cons c cs ih =>
    have hcons : encode (.ofChars (c :: cs))
        = .ofChars ((Utf8.encodeChar c).flatMap escape) ++ encode (.ofChars cs) := by
      rw [encode, encode, ← Text.ofChars_append, ← List.flatMap_append]
      rfl
    rw [hcons]
    exact .escaped (escapes_escape _) ih

/-! ## Decoding a spelling -/

theorem octets_cons_of_ne (hc : c ≠ '%') (x : Text) :
    octets (.scalar c :: x) = Utf8.encodeChar c ++ octets x := by
  match x with
  | [] | [_] => rw [octets, octetsOf]; rintro _ _ _ ⟨⟩
  | a :: b :: x =>
    rw [octets, if_neg fun h => hc (CodePoint.scalar.inj h)]
    rfl

theorem octets_append_of_escapes (h : Escapes e os) (x : Text) :
    octets (e ++ x) = os ++ octets x := by
  induction h with
  | nil => rfl
  | @cons high low h l e os hhigh hlow _ ih =>
    have hoctet : octet? high low = some (16 * h + l).toUInt8 := by
      rw [octet?, hhigh, hlow]
      rfl
    rw [List.cons_append, List.cons_append, List.cons_append, octets, if_pos rfl, hoctet]
    exact congrArg _ ih

theorem octets_of_spells (h : Spells x t) : ∃ cs, t = .ofChars cs ∧ octets x = Utf8.encode cs := by
  induction h with
  | nil => exact ⟨[], rfl, rfl⟩
  | @plain c x t hc _ ih =>
    obtain ⟨cs, rfl, hcs⟩ := ih
    exact ⟨c :: cs, rfl, by rw [octets_cons_of_ne (hc.ne (by decide)), hcs]; rfl⟩
  | @escaped c e x t he _ ih =>
    obtain ⟨cs, rfl, hcs⟩ := ih
    exact ⟨c :: cs, rfl, by rw [octets_append_of_escapes he, hcs]; rfl⟩

theorem octets_append_of_notMem {cs : List Char} (h : '%' ∉ cs) (x : Text) :
    octets (.ofChars cs ++ x) = Utf8.encode cs ++ octets x := by
  induction cs with
  | nil => rfl
  | cons c cs ih =>
    rw [List.mem_cons, not_or] at h
    have hcons : octets (.ofChars (c :: cs) ++ x)
        = Utf8.encodeChar c ++ octets (.ofChars cs ++ x) := octets_cons_of_ne (Ne.symm h.1) _
    rw [hcons, ih h.2, ← List.append_assoc]
    rfl

/-- **A spelling is decoded to what it spells**, behind characters that stand for themselves. -/
theorem decode_append_of_spells {cs : List Char} (hcs : '%' ∉ cs) (h : Spells x t) :
    decode (.ofChars cs ++ x) = .ofChars cs ++ t := by
  obtain ⟨ds, rfl, hds⟩ := octets_of_spells h
  have happend : Utf8.encode cs ++ Utf8.encode ds = Utf8.encode (cs ++ ds) :=
    (List.flatMap_append ..).symm
  rw [decode, octets_append_of_notMem hcs, hds, happend, Utf8.decodeLossy_encode,
    Text.ofChars_append]

end Percent

namespace Target

open Percent

variable {cs : List Char} {x t : Text}

theorem notMem_append_of_spells (hquery : '?' ∉ cs) (h : Spells x t) :
    .scalar '?' ∉ Text.ofChars cs ++ x := by
  intro hmem
  rcases List.mem_append.1 hmem with hmem | hmem
  · obtain ⟨c, hc, heq⟩ := List.mem_map.1 hmem
    exact hquery (CodePoint.scalar.inj heq ▸ hc)
  · exact h.notMem hmem

/-- **The path of a target whose last segment spells a text.** -/
theorem path_append_of_spells (hpercent : '%' ∉ cs) (hquery : '?' ∉ cs) (h : Spells x t) :
    path (.ofChars cs ++ x) = .ofChars cs ++ t := by
  rw [path, Text.cut?_of_notMem (notMem_append_of_spells hquery h)]
  exact decode_append_of_spells hpercent h

/-- Such a target has no query. -/
theorem value?_append_of_spells (hquery : '?' ∉ cs) (h : Spells x t) (name : Text) :
    value? name (.ofChars cs ++ x) = none := by
  rw [value?, query, Text.cut?_of_notMem (notMem_append_of_spells hquery h)]
  rfl

end Target

end FeatureFlags

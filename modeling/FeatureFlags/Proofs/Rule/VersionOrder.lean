import FeatureFlags.Proofs.Rule.Basic
import FeatureFlags.Proofs.Version.Order
import FeatureFlags.Proofs.Version.Spelling
import FeatureFlags.Rule.Version

/-!
# Proofs/Rule/VersionOrder — version rules are intervals of the order of versions

A version rule always has an answer, yes or no (`answer_evaluate`).  Where its operands are well
formed, normalizing keeps the rule as it stands, and what it asks for can be read off:

    <op> x     the version is well formed and compares with x as the operator says
    a-b        the version is well formed, not below a and not above b

A range is cut at its first hyphen, which stands behind `a` because `a` has no tag, whatever hyphens
there are in `b`.  What holds of the rules among each other (`fits_order`) then holds because the
order of versions is a total preorder.
-/

namespace FeatureFlags

namespace VersionRule

open Version

variable {α β : Type} {rule version a b x : Text} {c : Comparison} {parts : List (List Nat)}
  {tag? : Option Text}

/-! ## There always is an answer -/

/-- **No numeral of too many digits** is met: a version is compared, never refused, for its
length. -/
def Settled (m : Except RuleFailure α) : Prop := ∀ o, m ≠ .error (.overlong o)

theorem settled_ok (a : α) : Settled (.ok a) := nofun

theorem Settled.bind {m : Except RuleFailure α} {f : α → Except RuleFailure β} (hm : Settled m)
    (hf : ∀ a, Settled (f a)) : Settled (m >>= f) := by
  cases m with
  | error e => exact fun o h => hm o (by cases h; rfl)
  | ok a => exact hf a

theorem settled_require (rule text : Text) : Settled (require rule text) := by
  rw [require]
  split <;> nofun

theorem settled_parse (rule : Text) : Settled (parse rule) := by
  rw [parse]
  split
  · exact (settled_require rule _).bind fun _ => settled_ok _
  · split <;> exact settled_ok _

theorem settled_admits (rule present : Text) (r : VersionRule) :
    Settled (admits rule present r) := by
  cases r with
  | comparison c operand => exact (settled_require rule present).bind fun _ => settled_ok _
  | range low high => exact (settled_require rule present).bind fun _ => settled_ok _
  | literal text => exact settled_ok _

theorem settled_accepts (rule version : Text) : Settled (accepts rule version) :=
  (settled_parse rule).bind fun r => settled_admits rule _ r

/-- **A version fits a rule** if evaluating the rule answers yes. -/
def fits (rule version : Text) : Bool := (evaluate rule version).answer.toOption.getD false

/-- **Evaluating a rule always answers**, with whether the version fits. -/
theorem answer_evaluate (rule version : Text) :
    (evaluate rule version).answer = .ok (fits rule version) := by
  rw [fits]
  cases h : (evaluate rule version).answer with
  | ok b => rfl
  | error o =>
    exact absurd (Verdict.answer_ofMatch_eq_error_iff.1 h) (settled_accepts rule version o)

/-- A version fits where the rule accepts it; where the rule is refused none does. -/
theorem fits_eq (rule version : Text) :
    fits rule version = (accepts rule version).toOption.getD false := by
  rw [fits, evaluate]
  obtain (fault | o) | b := accepts rule version <;> rfl

/-! ## Rules with well-formed operands -/

/-- A well-formed version opens with a digit, so it opens with no operator and goes on with none. -/
theorem exists_digit_of_spells (h : Spells x parts tag?) :
    ∃ d u n, x = d :: u ∧ d.digit? = some n := by
  have hdigits {t : Text} {ds : List Nat} (ht : Numeral.Digits t ds) :
      ∃ d u n, t = d :: u ∧ d.digit? = some n := by
    cases t with
    | nil => exact absurd rfl ht.1
    | cons d u =>
      obtain ⟨n, hn⟩ := ht.digit? List.mem_cons_self
      exact ⟨d, u, n, rfl, hn⟩
  have hdotted {t : Text} (ht : Dotted t parts) : ∃ d u n, t = d :: u ∧ d.digit? = some n := by
    cases ht with
    | last ht => exact hdigits ht
    | dot ht _ =>
      obtain ⟨d, u, n, rfl, hn⟩ := hdigits ht
      exact ⟨d, _, n, rfl, hn⟩
  cases h with
  | release ht => exact hdotted ht
  | tagged ht _ =>
    obtain ⟨d, u, n, rfl, hn⟩ := hdotted ht
    exact ⟨d, _, n, rfl, hn⟩

/-- The code points of the operators are kept by normalizing. -/
theorem kept_of_mem_symbol {d : CodePoint} (hd : d ∈ c.symbol) : Kept d := by
  have hsigns : ∀ d ∈ [CodePoint.scalar '<', .scalar '=', .scalar '>'],
      d.isBlank = false ∧ d.toNat < 0x80 ∧ ¬ (0x41 ≤ d.toNat ∧ d.toNat ≤ 0x5A) := by decide
  obtain ⟨hblank, hlow, hcapital⟩ := hsigns d (Comparison.mem_symbol hd)
  exact ⟨hblank, CodePoint.small_of_ascii hlow hcapital⟩

theorem require_bind (rule text : Text) (m : Except RuleFailure α) :
    (require rule text >>= fun _ => m) =
      if isVersion text then m else .error (.unreadable ⟨rule, .notVersion text⟩) := by
  rw [require]
  split <;> rfl

/-- A comparison with a well-formed operand is read as it stands. -/
theorem parse_symbol_append (h : isVersion x = true) :
    parse (c.symbol ++ x) = .ok (.comparison c x) := by
  obtain ⟨parts, tag?, hx⟩ := exists_spells_of_isVersion h
  obtain ⟨d, u, n, rfl, hn⟩ := exists_digit_of_spells hx
  have hnormal : normalize (c.symbol ++ d :: u) = c.symbol ++ d :: u :=
    normalize_of_kept (List.forall_mem_append.2 ⟨fun _ => kept_of_mem_symbol, hx.kept⟩)
  have hopens : Comparison.Opens (c.symbol ++ d :: u) c (d :: u) := by
    refine Comparison.opens_symbol_append_iff.2 fun _ heq => ?_
    exact CodePoint.ne_of_digit? hn (e := .scalar '=') (by decide) (Option.some.inj heq)
  have htrim : Text.trim (d :: u) = d :: u :=
    Text.dropAround_of_bare (.of_forall fun e he => (hx.kept e he).1)
  rw [parse, hnormal, Comparison.split?_eq_some_iff.2 hopens]
  simp only [htrim]
  rw [require_bind, if_pos h]
  rfl

/-- Two versions around a hyphen are a range, if the first of them has no tag. -/
theorem parse_append_hyphen (ha : isVersion a = true) (htag : (ofText a).tag = none)
    (hb : isVersion b = true) : parse (a ++ .scalar '-' :: b) = .ok (.range a b) := by
  obtain ⟨parts, tag?, hsa⟩ := exists_spells_of_isVersion ha
  obtain ⟨parts', tag?', hsb⟩ := exists_spells_of_isVersion hb
  have hhyphen : .scalar '-' ∉ a := by
    rw [ofText_of_spells hsa] at htag
    obtain rfl : tag? = none := htag
    cases hsa with
    | release hdotted => exact hdotted.hyphen_notMem
  have hnormal : normalize (a ++ .scalar '-' :: b) = a ++ .scalar '-' :: b :=
    normalize_of_kept (List.forall_mem_append.2
      ⟨hsa.kept, List.forall_mem_cons.2 ⟨kept_of_inTag rfl, hsb.kept⟩⟩)
  have hunopened : Comparison.split? (a ++ .scalar '-' :: b) = none := by
    refine Comparison.split?_eq_none_iff.2 fun c rest ho => ?_
    obtain ⟨d, u, n, rfl, hn⟩ := exists_digit_of_spells hsa
    obtain hd | hd := ho.head?_eq
    all_goals exact CodePoint.ne_of_digit? hn (by decide) (Option.some.inj hd)
  have htrim {t : Text} {ps : List (List Nat)} {tag : Option Text} (ht : Spells t ps tag) :
      t.trim = t := Text.dropAround_of_bare (.of_forall fun e he => (ht.kept e he).1)
  have hbounds : bounds? (a ++ .scalar '-' :: b) = some (a, b) := by
    rw [bounds?, Text.cut?_append_cons hhyphen]
    simp only [htrim hsa, htrim hsb, ha, hb, and_self, if_true]
  rw [parse, hnormal, hunopened]
  simp only [hbounds]

/-! ## What such rules ask for -/

/-- Normalizing once more changes nothing. -/
theorem compareTexts_normalize (h : isVersion (normalize version) = true) (x : Text) :
    compareTexts (normalize version) x = compareTexts version x := by
  obtain ⟨parts, tag?, hs⟩ := exists_spells_of_isVersion h
  have hof : ofText (normalize version) = ofText version := by
    rw [ofText, normalize_of_spells hs, ofText]
  rw [compareTexts, hof, compareTexts]

/-- Where a rule asks for a version first, nothing else fits. -/
theorem fits_of_admits {r : VersionRule} {m : Bool} (hp : parse rule = .ok r)
    (hr : admits rule (normalize version) r =
      (require rule (normalize version) >>= fun _ => .ok m)) :
    fits rule version = (isVersion (normalize version) && m) := by
  have haccepts : accepts rule version = admits rule (normalize version) r := by
    rw [accepts, hp]
    rfl
  rw [fits_eq, haccepts, hr, require_bind]
  cases isVersion (normalize version) <;> rfl

/-- **A comparison asks how a version compares with its operand.** -/
theorem fits_symbol_append (h : isVersion x = true) (c : Comparison) (version : Text) :
    fits (c.symbol ++ x) version =
      (isVersion (normalize version) && c.holds (compareTexts version x)) := by
  rw [fits_of_admits (parse_symbol_append h) rfl]
  cases hv : isVersion (normalize version) with
  | false => rw [Bool.false_and, Bool.false_and]
  | true => rw [compareTexts_normalize hv]

/-- **A range asks whether a version is between its bounds.** -/
theorem fits_append_hyphen (ha : isVersion a = true) (htag : (ofText a).tag = none)
    (hb : isVersion b = true) (version : Text) : fits (a ++ .scalar '-' :: b) version =
      (isVersion (normalize version) &&
        (compareTexts version a != .lt && compareTexts version b != .gt)) := by
  rw [fits_of_admits (parse_append_hyphen ha htag hb) rfl]
  cases hv : isVersion (normalize version) with
  | false => rw [Bool.false_and, Bool.false_and]
  | true => rw [compareTexts_normalize hv, compareTexts_normalize hv]

/-! ## The order of versions -/

theorem holds_atLeast {o : Ordering} : Comparison.atLeast.holds o = true ↔ o.isGE := by
  cases o <;> decide

theorem holds_atMost {o : Ordering} : Comparison.atMost.holds o = true ↔ o.isLE := by
  cases o <;> decide

/-- **What a lower bound admits is closed upwards.** -/
theorem holds_of_isLE {v w : Text} (hc : c ∈ [Comparison.atLeast, .above])
    (hvw : (compareTexts v w).isLE) (h : c.holds (compareTexts v x) = true) :
    c.holds (compareTexts w x) = true := by
  have hwv : (compareTexts w v).isGE := Std.OrientedCmp.isGE_iff_isLE.2 hvw
  obtain rfl | rfl : c = .atLeast ∨ c = .above := by simpa using hc
  · rw [holds_atLeast] at h ⊢
    exact Std.TransCmp.isGE_trans hwv h
  · exact beq_iff_eq.2 (Std.TransCmp.gt_of_isGE_of_gt hwv (beq_iff_eq.1 h))

/-- **What an upper bound admits is closed downwards.** -/
theorem holds_of_isGE {v w : Text} (hc : c ∈ [Comparison.atMost, .below])
    (hvw : (compareTexts v w).isGE) (h : c.holds (compareTexts v x) = true) :
    c.holds (compareTexts w x) = true := by
  have hwv : (compareTexts w v).isLE := Std.OrientedCmp.isGE_iff_isLE.1 hvw
  obtain rfl | rfl : c = .atMost ∨ c = .below := by simpa using hc
  · rw [holds_atMost] at h ⊢
    exact Std.TransCmp.isLE_trans hwv h
  · exact beq_iff_eq.2 (Std.TransCmp.lt_of_isLE_of_lt hwv (beq_iff_eq.1 h))

/-- Fitting goes from one version to another where the comparison does. -/
theorem fits_of_holds (hx : isVersion x = true) {v w : Text} (hw : isVersion (normalize w) = true)
    (hclosed : c.holds (compareTexts v x) = true → c.holds (compareTexts w x) = true)
    (h : fits (c.symbol ++ x) v = true) : fits (c.symbol ++ x) w = true := by
  rw [fits_symbol_append hx, Bool.and_eq_true] at h ⊢
  exact ⟨hw, hclosed h.2⟩

open Comparison in
/-- **Version rules are intervals of the order of versions.**  Evaluating a rule always answers.  A
range is the conjunction of its bounds; below and at least exclude each other and leave nothing out
among the well-formed versions, and so do above and at most; at least and at most together are
equality; nothing else than a version fits; and a version that fits a lower bound is followed by all
versions above it, one that fits an upper bound by all below. -/
theorem fits_order {a b x : Text} (ha : isVersion a = true) (htag : (ofText a).tag = none)
    (hb : isVersion b = true) (hx : isVersion x = true) (cur : Text) :
    (∀ rule version, (evaluate rule version).answer = .ok (fits rule version)) ∧
    fits (a ++ .scalar '-' :: b) cur =
      (fits (atLeast.symbol ++ a) cur && fits (atMost.symbol ++ b) cur) ∧
    (isVersion (normalize cur) = true →
      fits (below.symbol ++ x) cur = !fits (atLeast.symbol ++ x) cur ∧
      fits (above.symbol ++ x) cur = !fits (atMost.symbol ++ x) cur ∧
      (fits (atLeast.symbol ++ x) cur = true ∧ fits (atMost.symbol ++ x) cur = true ↔
        compareTexts cur x = .eq)) ∧
    (isVersion (normalize cur) = false →
      fits (a ++ .scalar '-' :: b) cur = false ∧
      ∀ c : Comparison, ∀ y ∈ [a, b, x], fits (c.symbol ++ y) cur = false) ∧
    ∀ v w, isVersion (normalize w) = true →
      ((compareTexts v w).isLE → ∀ c ∈ [atLeast, above],
        fits (c.symbol ++ x) v = true → fits (c.symbol ++ x) w = true) ∧
      ((compareTexts v w).isGE → ∀ c ∈ [atMost, below],
        fits (c.symbol ++ x) v = true → fits (c.symbol ++ x) w = true) := by
  refine ⟨answer_evaluate, ?_, fun hcur => ?_, fun hcur => ?_, fun v w hw => ⟨?_, ?_⟩⟩
  · rw [fits_append_hyphen ha htag hb, fits_symbol_append ha, fits_symbol_append hb]
    cases isVersion (normalize cur) <;> rfl
  · simp only [fits_symbol_append hx, hcur, Bool.true_and]
    cases compareTexts cur x <;> decide
  · refine ⟨by rw [fits_append_hyphen ha htag hb, hcur, Bool.false_and], fun c y hy => ?_⟩
    have hversion : isVersion y = true := by
      obtain rfl | rfl | rfl : y = a ∨ y = b ∨ y = x := by simpa using hy
      all_goals assumption
    rw [fits_symbol_append hversion, hcur, Bool.false_and]
  · exact fun hvw c hc => fits_of_holds hx hw (holds_of_isLE hc hvw)
  · exact fun hvw c hc => fits_of_holds hx hw (holds_of_isGE hc hvw)

/-- A range whose upper bound has hyphens and dots in its tag, a pre-release written in capitals and
between blanks, a text that is no version, and the release above them all. -/
theorem fits_order_preRelease :
    let a : Text := "1.0"
    let b : Text := "2.0-rc-1.5"
    (isVersion a = true ∧ (ofText a).tag = none ∧ isVersion b = true) ∧
    fits (a ++ .scalar '-' :: b) " 2.0-RC " =
      (fits (Comparison.atLeast.symbol ++ a) " 2.0-RC " &&
        fits (Comparison.atMost.symbol ++ b) " 2.0-RC ") ∧
    (isVersion (normalize " 2.0-RC ") = true ∧ fits (Comparison.below.symbol ++ b) " 2.0-RC " =
      !fits (Comparison.atLeast.symbol ++ b) " 2.0-RC ") ∧
    (isVersion (normalize "2.0-") = false ∧ fits (a ++ .scalar '-' :: b) "2.0-" = false) ∧
    isVersion (normalize "2.0") = true ∧ (compareTexts "2.0-RC2" "2.0").isLE ∧
    fits (Comparison.above.symbol ++ b) "2.0-RC2" = true ∧
    fits (Comparison.above.symbol ++ b) "2.0" = true := by
  intro a b
  have ha : isVersion a = true := by decide
  have htag : (ofText a).tag = none := by decide
  have hb : isVersion b = true := by decide
  have hcur : isVersion (normalize " 2.0-RC ") = true := by decide
  have hno : isVersion (normalize "2.0-") = false := by decide
  have hrelease : isVersion (normalize "2.0") = true := by decide
  have hle : (compareTexts "2.0-RC2" "2.0").isLE := by decide
  have hfits : fits (Comparison.above.symbol ++ b) "2.0-RC2" = true := by decide
  obtain ⟨-, hrange, hin, -, hclosed⟩ := fits_order ha htag hb hb " 2.0-RC "
  obtain ⟨-, -, -, hout, -⟩ := fits_order ha htag hb hb "2.0-"
  exact ⟨⟨ha, htag, hb⟩, hrange, ⟨hcur, (hin hcur).1⟩, ⟨hno, (hout hno).1⟩, hrelease, hle, hfits,
    (hclosed "2.0-RC2" "2.0" hrelease).1 hle .above (by decide) hfits⟩

end VersionRule

end FeatureFlags

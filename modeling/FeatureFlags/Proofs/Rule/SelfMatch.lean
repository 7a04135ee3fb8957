import FeatureFlags.Proofs.Rule.VersionOrder

/-!
# Proofs/Rule/SelfMatch — which texts match themselves as version rules

A text read as a rule has, once it is normal, one of three readings, and which one it is decides
whether it matches itself:

    <op> rest     it opens with an operator, so it is no version and nothing it could ask for fits
    left-right    both halves around its first hyphen are versions (`ReadsAsRange`)
    anything      it is a literal, and matches itself

The second reading never fits either.  If the whole text is a version, `left` is what stands in
front of its tag; it has the same numbers and no tag, so that the whole text is below its own range.
For a well-formed version the first reading is out, and the second is left to those whose tag is a
version.

The main statement is `answer_evaluate_self`.
-/

namespace FeatureFlags

namespace VersionRule

open Version

variable {t v left right : Text} {parts : List (List Nat)} {tag? : Option Text}

/-! ## The three readings -/

/-- **A text that reads as a range**: around its first hyphen stand two versions, blanks aside. -/
def ReadsAsRange (t : Text) : Prop :=
  ∃ left right : Text, t = left ++ .scalar '-' :: right ∧ .scalar '-' ∉ left ∧
    isVersion left.trim = true ∧ isVersion right.trim = true

theorem bounds?_append_hyphen (h : .scalar '-' ∉ left) :
    bounds? (left ++ .scalar '-' :: right) =
      if isVersion left.trim = true ∧ isVersion right.trim = true
      then some (left.trim, right.trim) else none := by
  rw [bounds?, Text.cut?_append_cons h]

theorem readsAsRange_append_hyphen_iff (h : .scalar '-' ∉ left) :
    ReadsAsRange (left ++ .scalar '-' :: right) ↔
      isVersion left.trim = true ∧ isVersion right.trim = true := by
  refine ⟨?_, fun hv => ⟨left, right, rfl, h, hv⟩⟩
  rintro ⟨left', right', heq, h', hv⟩
  have hcut : (left' ++ .scalar '-' :: right').cut? (.scalar '-') = some (left', right') :=
    Text.cut?_append_cons h'
  rw [← heq, Text.cut?_append_cons h] at hcut
  cases hcut
  exact hv

theorem bounds?_eq_none (h : ¬ ReadsAsRange t) : bounds? t = none := by
  by_cases hhyphen : .scalar '-' ∈ t
  · obtain ⟨left, right, rfl, hleft⟩ := List.eq_append_cons_of_mem hhyphen
    rw [bounds?_append_hyphen hleft, if_neg (mt (readsAsRange_append_hyphen_iff hleft).2 h)]
  · rw [bounds?, Text.cut?_of_notMem hhyphen]

/-- A text opens with an operator if its first code point is that of one. -/
theorem split?_eq_none_iff : Comparison.split? t = none ↔
    t.head? ≠ some (.scalar '<') ∧ t.head? ≠ some (.scalar '>') := by
  rw [Comparison.split?_eq_none_iff]
  constructor
  · intro h
    cases t with
    | nil => exact ⟨nofun, nofun⟩
    | cons c rest =>
      refine ⟨fun hc => ?_, fun hc => ?_⟩
      all_goals
        obtain rfl := Option.some.inj hc
        by_cases heq : rest.head? = some (.scalar '=')
      · obtain ⟨operand, rfl⟩ := List.head?_eq_some_iff.1 heq
        exact h _ _ (.atMost operand)
      · exact h _ _ (.below heq)
      · obtain ⟨operand, rfl⟩ := List.head?_eq_some_iff.1 heq
        exact h _ _ (.atLeast operand)
      · exact h _ _ (.above heq)
  · rintro ⟨hless, hgreater⟩ c rest ho
    exact ho.head?_eq.elim hgreater hless

/-- No version opens with an operator. -/
theorem split?_of_spells (h : Spells t parts tag?) : Comparison.split? t = none := by
  obtain ⟨d, u, n, rfl, hn⟩ := exists_digit_of_spells h
  refine split?_eq_none_iff.2 ⟨fun hd => ?_, fun hd => ?_⟩
  all_goals exact CodePoint.ne_of_digit? hn (by decide) (Option.some.inj hd)

theorem trim_of_dotted (h : Dotted t parts) : t.trim = t :=
  Text.dropAround_of_bare (.of_forall fun c hc => ((Spells.release h).kept c hc).1)

theorem isVersion_append_hyphen (h : .scalar '-' ∉ left)
    (hv : isVersion (left ++ .scalar '-' :: right) = true) :
    isDotted left = true ∧ isTag right = true := by
  rw [isVersion, Text.cut?_append_cons h] at hv
  exact Bool.and_eq_true_iff.1 hv

/-! ## What a text answers to itself -/

/-- **A version with a tag is below its own numbers.** -/
theorem compareTexts_tagged (h : Dotted left parts) (ht : isTag right = true) :
    compareTexts (left ++ .scalar '-' :: right) left = .lt := by
  rw [compareTexts, ofText_of_spells (.tagged h ht), ofText_of_spells (.release h)]
  have hnumbers : compareNumbers (parts.map worth) (parts.map worth) = .eq :=
    Std.ReflCmp.compare_self
  change (compareNumbers _ _).then (compareTags (some right) none) = .lt
  rw [hnumbers]
  rfl

/-- An operator asks for a version, and a text that opens with one is none. -/
theorem fits_self_of_split? {c : Comparison} {rest : Text}
    (h : Comparison.split? (normalize v) = some (c, rest)) : fits v v = false := by
  have hversion : isVersion (normalize v) = false := by
    refine Bool.eq_false_iff.2 fun hv => ?_
    obtain ⟨parts, tag?, hs⟩ := exists_spells_of_isVersion hv
    rw [split?_of_spells hs] at h
    cases h
  have hp : parse v = (require v rest.trim >>= fun _ => .ok (.comparison c rest.trim)) := by
    rw [parse, h]
    rfl
  rw [require_bind] at hp
  by_cases hrest : isVersion rest.trim = true
  · rw [if_pos hrest] at hp
    rw [fits_of_admits hp rfl, hversion, Bool.false_and]
  · rw [if_neg hrest] at hp
    rw [fits_eq, accepts, hp]
    rfl

/-- **No text is within the range it reads as**: it is below, if it is a version at all. -/
theorem fits_self_of_readsAsRange (hs : Comparison.split? (normalize v) = none)
    (hr : ReadsAsRange (normalize v)) : fits v v = false := by
  obtain ⟨left, right, hv, hleft, hbounds⟩ := hr
  have hp : parse v = .ok (.range left.trim right.trim) := by
    rw [parse, hs]
    simp only [hv, bounds?_append_hyphen hleft, if_pos hbounds]
  rw [fits_of_admits hp rfl]
  by_cases hversion : isVersion (normalize v) = true
  · have hbelow : compareTexts (normalize v) left.trim = .lt := by
      rw [hv] at hversion ⊢
      obtain ⟨hmain, htag⟩ := isVersion_append_hyphen hleft hversion
      obtain ⟨parts, hparts⟩ := exists_dotted_of_isDotted hmain
      rw [trim_of_dotted hparts, compareTexts_tagged hparts htag]
    rw [hbelow]
    exact Bool.and_false _
  · rw [Bool.eq_false_iff.2 hversion, Bool.false_and]

/-- A literal is what its own text is. -/
theorem fits_self_of_literal (hs : Comparison.split? (normalize v) = none)
    (hr : ¬ ReadsAsRange (normalize v)) : fits v v = true := by
  have hp : parse v = .ok (.literal (normalize v)) := by
    rw [parse, hs]
    simp only [bounds?_eq_none hr]
  rw [fits_eq, accepts, hp]
  exact decide_eq_true rfl

/-- **A text fits itself** if it neither opens with an operator nor reads as a range. -/
theorem fits_self_iff : fits v v = true ↔
    ((normalize v).head? ≠ some (.scalar '<') ∧ (normalize v).head? ≠ some (.scalar '>')) ∧
      ¬ ReadsAsRange (normalize v) := by
  rw [← split?_eq_none_iff]
  cases hs : Comparison.split? (normalize v) with
  | some opening =>
    rw [fits_self_of_split? hs]
    exact iff_of_false nofun fun h => nomatch h.1
  | none =>
    by_cases hr : ReadsAsRange (normalize v)
    · rw [fits_self_of_readsAsRange hs hr]
      exact iff_of_false nofun fun h => h.2 hr
    · exact iff_of_true (fits_self_of_literal hs hr) ⟨rfl, hr⟩

/-! ## Well-formed versions -/

/-- A tag is no different trimmed. -/
theorem trim_of_isTag (h : isTag t = true) : t.trim = t :=
  Text.dropAround_of_bare (.of_forall fun _ hc => (kept_of_inTag (inTag_of_isTag h hc)).1)

/-- **A well-formed version reads as a range** if its tag is a version. -/
theorem readsAsRange_iff_of_isVersion (h : isVersion t = true) :
    ReadsAsRange t ↔ ∃ tag, (ofText t).tag = some tag ∧ isVersion tag = true := by
  obtain ⟨parts, tag?, hs⟩ := exists_spells_of_isVersion h
  rw [ofText_of_spells hs]
  cases hs with
  | release hdotted =>
    refine iff_of_false ?_ nofun
    rintro ⟨left, right, rfl, -⟩
    exact hdotted.hyphen_notMem (List.mem_append_right left List.mem_cons_self)
  | @tagged main tag _ hdotted htag =>
    have hmain : isVersion main = true := by
      rw [isVersion, Text.cut?_of_notMem hdotted.hyphen_notMem]
      exact (isVersion_append_hyphen hdotted.hyphen_notMem h).1
    rw [readsAsRange_append_hyphen_iff hdotted.hyphen_notMem, trim_of_dotted hdotted,
      trim_of_isTag htag]
    simp [hmain]

/-- A well-formed version matches itself unless its tag is a version, blanks and capitals aside. -/
theorem fits_self_iff_of_isVersion (h : isVersion (normalize v) = true) :
    fits v v = true ↔ ¬ ∃ tag, (ofText v).tag = some tag ∧ isVersion tag = true := by
  obtain ⟨parts, tag?, hs⟩ := exists_spells_of_isVersion h
  have hof : ofText (normalize v) = ofText v := by
    rw [ofText, normalize_of_spells hs, ofText]
  rw [fits_self_iff, readsAsRange_iff_of_isVersion h, hof]
  exact and_iff_right (split?_eq_none_iff.1 (split?_of_spells hs))

/-- **Which texts match themselves.**  Evaluating a text as a rule on itself always answers, and the
answer is yes if and only if the text, trimmed and in small letters, neither opens with an angle
bracket nor reads as a range.  So a well-formed version, which is trimmed and in small letters as it
stands, matches itself as long as its tag is not itself a version, and otherwise it never does. -/
theorem answer_evaluate_self (v : Text) :
    (∃ b, (evaluate v v).answer = .ok b) ∧
    ((evaluate v v).answer = .ok true ↔
      ((normalize v).head? ≠ some (.scalar '<') ∧ (normalize v).head? ≠ some (.scalar '>')) ∧
        ¬ ReadsAsRange (normalize v)) ∧
    (isVersion v = true → normalize v = v) ∧
    (isVersion (normalize v) = true →
      ((¬ ∃ tag, (ofText v).tag = some tag ∧ isVersion tag = true) →
        (evaluate v v).answer = .ok true) ∧
      ((∃ tag, (ofText v).tag = some tag ∧ isVersion tag = true) →
        (evaluate v v).answer = .ok false)) := by
  rw [answer_evaluate, Except.ok.injEq]
  refine ⟨⟨_, rfl⟩, fits_self_iff, fun hv => ?_, fun hv => ⟨fun htag => ?_, fun htag => ?_⟩⟩
  · obtain ⟨parts, tag?, hs⟩ := exists_spells_of_isVersion hv
    exact normalize_of_spells hs
  · rw [(fits_self_iff_of_isVersion hv).2 htag]
  · rw [Bool.eq_false_iff.2 fun hfits => (fits_self_iff_of_isVersion hv).1 hfits htag]

/-- A pre-release in capitals and between blanks, which matches itself, and a version whose tag is a
version, which does not. -/
theorem answer_evaluate_self_preRelease :
    (isVersion "1.0.0-beta.2" = true ∧ normalize "1.0.0-beta.2" = "1.0.0-beta.2") ∧
    (isVersion (normalize " 1.0.0-BETA ") = true ∧
      (¬ ∃ tag, (ofText " 1.0.0-BETA ").tag = some tag ∧ isVersion tag = true) ∧
      (evaluate " 1.0.0-BETA " " 1.0.0-BETA ").answer = .ok true) ∧
    isVersion (normalize "1.0.0-1") = true ∧
      (∃ tag, (ofText "1.0.0-1").tag = some tag ∧ isVersion tag = true) ∧
      (evaluate "1.0.0-1" "1.0.0-1").answer = .ok false := by
  have hbeta : isVersion "1.0.0-beta.2" = true := by decide
  have hloud : isVersion (normalize " 1.0.0-BETA ") = true := by decide
  have hword : ¬ ∃ tag, (ofText " 1.0.0-BETA ").tag = some tag ∧ isVersion tag = true := by
    have htag : (ofText " 1.0.0-BETA ").tag = some "beta" := by decide
    rintro ⟨tag, heq, hv⟩
    obtain rfl := Option.some.inj (htag.symm.trans heq)
    exact absurd hv (by decide)
  have hone : isVersion (normalize "1.0.0-1") = true := by decide
  have hnumber : ∃ tag, (ofText "1.0.0-1").tag = some tag ∧ isVersion tag = true :=
    ⟨"1", by decide, by decide⟩
  obtain ⟨-, -, hnormal, -⟩ := answer_evaluate_self "1.0.0-beta.2"
  obtain ⟨-, -, -, hmatch⟩ := answer_evaluate_self " 1.0.0-BETA "
  obtain ⟨-, -, -, hnever⟩ := answer_evaluate_self "1.0.0-1"
  exact ⟨⟨hbeta, hnormal hbeta⟩, ⟨hloud, hword, (hmatch hloud).1 hword⟩, hone, hnumber,
    (hnever hone).2 hnumber⟩

end VersionRule

end FeatureFlags

import FeatureFlags.Proofs.Rule.SelfMatch
import FeatureFlags.Proofs.Text.Lower
import Mathlib.Data.List.Forall2

/-!
# Proofs/Rule/Writing — what does not matter in the way rules and versions are written

Rules and versions are normalized before anything is read off them, and so are the parts of a rule:

    ␣>=␣1.0-RC␣      trimmed, in small letters      >=␣1.0-rc
    operand          trimmed once more              1.0-rc

What a rule is read as depends on its normal form alone (`reading`), and so does whether a version
fits it (`fits_congr`).  The normal form is that of whatever differs in blanks around it and in the
case of ASCII letters (`WrittenAlike`).  Blanks within a rule show in its normal form, but behind an
operator and around the hyphen of a range the reading trims them off (`reading_operator`,
`reading_hyphen`), so a rule that is spread out there (`Spread`) is read as before.
-/

namespace FeatureFlags

open CodePoint (SameLetter)

namespace Text

variable {t u : Text} {c : CodePoint}

theorem isBlank_append (ht : t.isBlank = true) (hu : u.isBlank = true) :
    Text.isBlank (t ++ u) = true := by
  rw [Text.isBlank, List.all_append, Bool.and_eq_true]
  exact ⟨ht, hu⟩

theorem notMem_of_isBlank (h : t.isBlank = true) (hc : c.isBlank = false) : c ∉ t := by
  intro hmem
  rw [List.all_eq_true.1 h c hmem] at hc
  cases hc

/-- A text that opens with no blank has no blanks in front. -/
theorem eq_nil_of_head?_append (ht : t.isBlank = true) (h : (t ++ u).head? = some c)
    (hc : c.isBlank = false) : t = [] := by
  cases t with
  | nil => rfl
  | cons d t =>
    obtain rfl := Option.some.inj h
    exact absurd List.mem_cons_self (notMem_of_isBlank ht hc)

end Text

namespace Version

variable {t u : Text}

/-- **Written alike**: the same but for the case of ASCII letters and the blanks around. -/
def WrittenAlike (t u : Text) : Prop :=
  ∃ core core', Text.Around CodePoint.isBlank core t ∧ Text.Around CodePoint.isBlank core' u ∧
    List.Forall₂ SameLetter core core'

theorem normalize_eq (t : Text) : normalize t = t.lower.trim := (Text.trim_lower t).symm

/-- Blanks around a text do not change its normal form. -/
theorem normalize_around {core : Text} (h : Text.Around CodePoint.isBlank core t) :
    normalize t = normalize core := by
  rw [normalize, Text.trim, Text.dropAround_around h]
  rfl

theorem normalize_blank_append (h : u.isBlank = true) (t : Text) :
    normalize (u ++ t) = normalize t :=
  normalize_around ⟨u, [], List.all_eq_true.1 h, nofun, (List.append_nil _).symm⟩

theorem normalize_append_blank (h : u.isBlank = true) (t : Text) :
    normalize (t ++ u) = normalize t :=
  normalize_around ⟨[], u, nofun, List.all_eq_true.1 h, rfl⟩

/-- What is trimmed in front already is normalized by trimming the rest. -/
theorem trim_dropWhile_lower (t : Text) :
    Text.trim (t.lower.dropWhile CodePoint.isBlank) = normalize t := by
  rw [normalize_eq, Text.trim, Text.trim, Text.dropAround_around (Text.around_dropWhile _ t.lower)]

/-- What is trimmed behind already is normalized by trimming the rest. -/
theorem trim_rdropWhile_lower (t : Text) :
    Text.trim (t.lower.rdropWhile CodePoint.isBlank) = normalize t := by
  rw [normalize_eq, Text.trim, Text.trim, Text.dropAround_around (Text.around_rdropWhile _ t.lower)]

/-- **What is written alike has one normal form.** -/
theorem WrittenAlike.normalize_eq (h : WrittenAlike t u) : normalize t = normalize u := by
  obtain ⟨core, core', ht, hu, hcase⟩ := h
  rw [normalize_around ht, normalize_around hu, Version.normalize_eq, Version.normalize_eq,
    Text.lower_congr hcase]

end Version

namespace VersionRule

open Version
open Comparison (Opens)

variable {rule rule' version version' left right before after x y : Text} {c : Comparison}

/-! ## Reading a normal form -/

/-- **What a rule in normal form is read as**, if it can be read. -/
def reading (condition : Text) : Option VersionRule :=
  match Comparison.split? condition with
  | some (c, rest) => if isVersion rest.trim then some (.comparison c rest.trim) else none
  | none =>
    match bounds? condition with
    | some (least, greatest) => some (.range least greatest)
    | none => some (.literal condition)

theorem toOption_parse (rule : Text) : (parse rule).toOption = reading (normalize rule) := by
  rw [parse, reading]
  cases hs : Comparison.split? (normalize rule) with
  | some opening =>
    simp only [require_bind]
    by_cases hv : isVersion opening.2.trim = true
    · rw [if_pos hv, if_pos hv]
      rfl
    · rw [if_neg hv, if_neg hv]
      rfl
  | none =>
    cases bounds? (normalize rule) with
    | some ends => rfl
    | none => rfl

/-- The text of the rule shows in faults only. -/
theorem toOption_admits (rule rule' present : Text) (r : VersionRule) :
    (admits rule present r).toOption = (admits rule' present r).toOption := by
  cases r with
  | comparison c operand => rw [admits, admits, require_bind, require_bind]; split <;> rfl
  | range least greatest => rw [admits, admits, require_bind, require_bind]; split <;> rfl
  | literal text => rfl

theorem fits_eq_reading (rule version : Text) : fits rule version =
    ((reading (normalize rule)).bind fun r =>
      (admits rule (normalize version) r).toOption).getD false := by
  rw [fits_eq, accepts, ← toOption_parse]
  cases parse rule <;> rfl

/-- **Whether a version fits depends on what the rule is read as** and on the version's normal
form. -/
theorem fits_congr (hrule : reading (normalize rule) = reading (normalize rule'))
    (hversion : normalize version = normalize version') :
    fits rule version = fits rule' version' := by
  rw [fits_eq_reading, fits_eq_reading, hrule, hversion]
  simp only [toOption_admits rule rule']

/-! ## Blanks within a rule -/

/-- A comparison is still the longest that fits, unless an equals sign has moved up to it. -/
theorem opens_of_head? (h : Opens (c.symbol ++ x) c x)
    (hy : y.head? = some (.scalar '=') → x.head? = some (.scalar '=')) :
    Opens (c.symbol ++ y) c y :=
  Comparison.opens_symbol_append_iff.2 fun hc => mt hy (h.head?_ne hc)

theorem breaks_of_mem_symbol {d : CodePoint} (hd : d ∈ c.symbol) : d.Breaks :=
  CodePoint.breaks_of_mem_signs d (List.mem_cons_of_mem _ (Comparison.mem_symbol hd))

theorem trim_symbol_append (c : Comparison) (x : Text) :
    Text.trim (c.symbol ++ x) = c.symbol ++ x.rdropWhile CodePoint.isBlank :=
  Text.dropAround_append (l := []) c.bare_symbol c.symbol_ne_nil

/-- **What an operator asks for** is its operand, normalized. -/
theorem reading_operator (hbefore : Text.isBlank before = true) (h : Opens (c.symbol ++ x) c x) :
    reading (normalize (before ++ (c.symbol ++ x))) =
      if isVersion (normalize x) then some (.comparison c (normalize x)) else none := by
  have hnormal : normalize (before ++ (c.symbol ++ x)) =
      c.symbol ++ x.lower.rdropWhile CodePoint.isBlank := by
    rw [normalize_blank_append hbefore, normalize_eq,
      Text.lower_append_of_breaks fun _ => breaks_of_mem_symbol, trim_symbol_append]
  have hopens : Opens (c.symbol ++ x.lower.rdropWhile CodePoint.isBlank) c
      (x.lower.rdropWhile CodePoint.isBlank) := by
    refine opens_of_head? h fun hhead => Text.head?_of_head?_lower ?_ (by decide)
    obtain ⟨rest, hrest⟩ := List.rdropWhile_prefix CodePoint.isBlank x.lower
    rw [← hrest, List.head?_append, hhead]
    rfl
  rw [reading, hnormal, Comparison.split?_eq_some_iff.2 hopens]
  simp only [trim_rdropWhile_lower]

/-- What is left of a text that is normally a version opens with a digit. -/
theorem split?_dropWhile_append (h : isVersion (normalize left) = true) (x : Text) :
    Comparison.split? (left.lower.dropWhile CodePoint.isBlank ++ x) = none := by
  obtain ⟨parts, tag?, hs⟩ := exists_spells_of_isVersion h
  obtain ⟨d, u, n, hd, hn⟩ := exists_digit_of_spells hs
  have hhead : (left.lower.dropWhile CodePoint.isBlank ++ x).head? = some d := by
    obtain ⟨rest, hrest⟩ := List.rdropWhile_prefix CodePoint.isBlank
      (left.lower.dropWhile CodePoint.isBlank)
    have hcore : (left.lower.dropWhile CodePoint.isBlank).rdropWhile CodePoint.isBlank =
        d :: u := by
      rw [← hd, normalize_eq]
      rfl
    rw [← hrest, hcore]
    rfl
  refine split?_eq_none_iff.2 ⟨fun hc => ?_, fun hc => ?_⟩
  all_goals exact CodePoint.ne_of_digit? hn (by decide) (Option.some.inj (hhead.symm.trans hc))

/-- **The bounds of a range** are its halves, normalized. -/
theorem reading_hyphen (h : .scalar '-' ∉ left) (hleft : isVersion (normalize left) = true)
    (hright : isVersion (normalize right) = true) :
    reading (normalize (left ++ .scalar '-' :: right)) =
      some (.range (normalize left) (normalize right)) := by
  have hbare : Text.Bare CodePoint.isBlank [.scalar '-'] := .of_forall (by decide)
  have hnormal : normalize (left ++ .scalar '-' :: right) =
      left.lower.dropWhile CodePoint.isBlank ++
        .scalar '-' :: right.lower.rdropWhile CodePoint.isBlank := by
    rw [normalize_eq, Text.lower_append_cons (CodePoint.breaks_of_mem_signs _ (by decide)),
      List.append_cons, Text.trim, Text.dropAround_append hbare (List.cons_ne_nil _ _),
      List.append_assoc]
    rfl
  have hnotMem : .scalar '-' ∉ left.lower.dropWhile CodePoint.isBlank := fun hmem =>
    h (Text.mem_of_mem_lower ((List.dropWhile_suffix _).subset hmem) (by decide))
  rw [reading, hnormal, split?_dropWhile_append hleft]
  simp only [bounds?_append_hyphen hnotMem, trim_dropWhile_lower, trim_rdropWhile_lower, hleft,
    hright, and_self, if_true]

/-- **A rule spread out by a gap of blanks**, behind its operator or around the first hyphen of two
versions.  The gap may come to stand next to blanks that are there already. -/
inductive Spread : Text → Text → Prop
  | operator {before near gap far : Text} {c : Comparison} (hbefore : Text.isBlank before = true)
      (hnear : Text.isBlank near = true) (hgap : Text.isBlank gap = true)
      (h : Opens (c.symbol ++ (near ++ far)) c (near ++ far)) :
      Spread (before ++ (c.symbol ++ (near ++ far)))
        (before ++ (c.symbol ++ (near ++ (gap ++ far))))
  | hyphen {left near gap gap' near' right : Text} (hnear : Text.isBlank near = true)
      (hgap : Text.isBlank gap = true) (hgap' : Text.isBlank gap' = true)
      (hnear' : Text.isBlank near' = true) (h : .scalar '-' ∉ left)
      (hleft : isVersion (normalize (left ++ near)) = true)
      (hright : isVersion (normalize (near' ++ right)) = true) :
      Spread ((left ++ near) ++ .scalar '-' :: (near' ++ right))
        ((left ++ (gap ++ near)) ++ .scalar '-' :: (near' ++ (gap' ++ right)))

/-- **A rule that is spread out is read as before.** -/
theorem Spread.reading_eq {spread : Text} (h : Spread rule spread) :
    reading (normalize spread) = reading (normalize rule) := by
  cases h with
  | @operator before near gap far c hbefore hnear hgap h =>
    have hopens : Opens (c.symbol ++ (near ++ (gap ++ far))) c (near ++ (gap ++ far)) := by
      refine opens_of_head? h fun hhead => ?_
      obtain rfl := Text.eq_nil_of_head?_append hnear hhead (by decide)
      obtain rfl := Text.eq_nil_of_head?_append hgap hhead (by decide)
      exact hhead
    rw [reading_operator hbefore h, reading_operator hbefore hopens, normalize_blank_append hnear,
      normalize_blank_append hnear, normalize_blank_append hgap]
  | @hyphen left near gap gap' near' right hnear hgap hgap' hnear' h hleft hright =>
    have hgaps := Text.isBlank_append hgap hnear
    have hleft' : normalize (left ++ (gap ++ near)) = normalize (left ++ near) := by
      rw [normalize_append_blank hgaps, normalize_append_blank hnear]
    have hright' : normalize (near' ++ (gap' ++ right)) = normalize (near' ++ right) := by
      rw [normalize_blank_append hnear', normalize_blank_append hnear',
        normalize_blank_append hgap']
    have hnotMem {blanks : Text} (hb : Text.isBlank blanks = true) :
        .scalar '-' ∉ left ++ blanks := fun hmem =>
      (List.mem_append.1 hmem).elim h (Text.notMem_of_isBlank hb (by decide))
    rw [reading_hyphen (hnotMem hnear) hleft hright,
      reading_hyphen (hnotMem hgaps) (hleft' ▸ hleft) (hright' ▸ hright), hleft', hright']

/-! ## What does not matter -/

/-- **The case of ASCII letters and the blanks around a rule or a version do not matter**, neither
to the answer of the rule nor to the order of versions, and blanks behind the operator of a rule or
around the hyphen of a range do not matter to the answer either. -/
theorem answer_evaluate_of_writtenAlike {a a' b b' : Text} (hrule : WrittenAlike rule rule')
    (hversion : WrittenAlike version version') (ha : WrittenAlike a a') (hb : WrittenAlike b b') :
    (∃ yes, (evaluate rule version).answer = .ok yes ∧ (evaluate rule' version').answer = .ok yes) ∧
      compareTexts a b = compareTexts a' b' ∧
      ∀ spread, Spread rule spread →
        (evaluate spread version).answer = (evaluate rule version).answer := by
  have hfits : fits rule' version' = fits rule version :=
    fits_congr (congrArg reading hrule.normalize_eq.symm) hversion.normalize_eq.symm
  refine ⟨⟨fits rule version, answer_evaluate rule version, ?_⟩, ?_, fun spread hspread => ?_⟩
  · rw [answer_evaluate, hfits]
  · rw [compareTexts, compareTexts, ofText, ofText, ofText, ofText, ha.normalize_eq,
      hb.normalize_eq]
  · rw [answer_evaluate, answer_evaluate, fits_congr hspread.reading_eq rfl]

/-- A pre-release asked for in capitals between blanks and in small letters without, a gap behind
the operator; then a range, and a gap on each side of its hyphen. -/
theorem answer_evaluate_of_writtenAlike_preRelease :
    (WrittenAlike "\t>=1.0-RC " ">=1.0-rc" ∧ WrittenAlike "1.0-Rc.2" " 1.0-rC.2\n" ∧
      Spread "\t>=1.0-RC " "\t>=\t1.0-RC " ∧
      (evaluate ">=1.0-rc" " 1.0-rC.2\n").answer = .ok true ∧
      (evaluate "\t>=\t1.0-RC " "1.0-Rc.2").answer = .ok true ∧
      compareTexts "\t>=1.0-RC " "1.0-Rc.2" = compareTexts ">=1.0-rc" " 1.0-rC.2\n") ∧
    (WrittenAlike "1.0-2.0" "1.0-2.0" ∧ Spread "1.0-2.0" "1.0 -\t2.0" ∧
      (evaluate "1.0 -\t2.0" "1.0-Rc.2").answer = (evaluate "1.0-2.0" "1.0-Rc.2").answer) := by
  have halike {t u : Text} (h : List.Forall₂ SameLetter t.trim u.trim) : WrittenAlike t u :=
    ⟨t.trim, u.trim, Text.around_dropAround _ t, Text.around_dropAround _ u, h⟩
  have hrule : WrittenAlike "\t>=1.0-RC " ">=1.0-rc" := halike (by decide +kernel)
  have hversion : WrittenAlike "1.0-Rc.2" " 1.0-rC.2\n" := halike (by decide +kernel)
  have hrange : WrittenAlike "1.0-2.0" "1.0-2.0" := halike (by decide +kernel)
  have hspread : Spread "\t>=1.0-RC " "\t>=\t1.0-RC " :=
    @Spread.operator "\t" [] "\t" "1.0-RC " .atLeast rfl rfl rfl (.atLeast _)
  have hspread' : Spread "1.0-2.0" "1.0 -\t2.0" :=
    @Spread.hyphen "1.0" [] " " "\t" [] "2.0" rfl rfl rfl rfl (by decide) (by decide) (by decide)
  obtain ⟨⟨yes, hyes, hyes'⟩, horder, hgap⟩ :=
    answer_evaluate_of_writtenAlike hrule hversion hrule hversion
  obtain ⟨-, -, hgap'⟩ := answer_evaluate_of_writtenAlike hrange hversion hrule hversion
  have htrue : (evaluate ">=1.0-rc" " 1.0-rC.2\n").answer = .ok true := by decide +kernel
  obtain rfl : yes = true := Except.ok.inj (hyes'.symm.trans htrue)
  exact ⟨⟨hrule, hversion, hspread, htrue, (hgap _ hspread).trans hyes, horder⟩, hrange, hspread',
    hgap' _ hspread'⟩

end VersionRule

end FeatureFlags

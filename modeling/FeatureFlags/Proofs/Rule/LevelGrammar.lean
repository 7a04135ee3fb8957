import FeatureFlags.Proofs.Rule.Basic
import FeatureFlags.Proofs.Text.Decimal
import FeatureFlags.Rule.Level
import Mathlib.Data.Set.Insert

/-!
# Proofs/Rule/LevelGrammar — what level rules are written like, and what they denote

A level rule, trimmed, is written in one of three ways (`Spells`),

    rule      ::=  comparison operand  |  unsigned - unsigned  |  unsigned
    operand   ::=  [+ or -] digits         unsigned  ::=  [+] digits

with blanks around an operand at will, and denotes a half line, an interval or a point (`levels`).
Every other text is defective in exactly one way (`Defective`): it has too many hyphens, or else the
first of its operands that cannot be used decides.  Both relations speak of the text alone.  A text
is written in one of four layouts (`layout`), which is how `parse` takes it apart; since each relation
is sound for `parse` and together they leave no text out, they are what `parse` computes
(`parse_eq_ok_iff`, `parse_eq_error_iff`).
-/

namespace FeatureFlags

open Numeral

namespace LevelRule

variable {rule t low high : Text} {negative : Bool} {ds : List Nat} {n : Int} {f : RuleFailure}
  {r : LevelRule} {level : Int} {c : Comparison} {rest : Text}

/-! ## Operands -/

/-- **An operand as it stands in a rule**: a decimal with blanks around it. -/
def Operand (t : Text) (negative : Bool) (ds : List Nat) : Prop :=
  ∃ d, Decimal d negative ds ∧ Text.Around CodePoint.isBlank d t

/-- **An operand that can be used**, and the integer it denotes: its digits are within the limit. -/
def Usable (t : Text) (negative : Bool) (n : Int) : Prop :=
  ∃ ds, Operand t negative ds ∧ ds.length ≤ digitLimit ∧ n = integer negative ds

/-- **An operand that cannot be used**, and what becomes of the rule: it is no decimal, or it is one
of too many digits. -/
inductive Unusable (rule t : Text) : RuleFailure → Prop
  | notDecimal (h : ∀ negative ds, ¬ Operand t negative ds) :
      Unusable rule t (.unreadable ⟨rule, .notInteger t.trim⟩)
  | overlong {negative : Bool} {ds : List Nat} (h : Operand t negative ds)
      (hl : digitLimit < ds.length) : Unusable rule t (.overlong ⟨ds.length⟩)

/-- Decimals stand for themselves. -/
theorem operand_of_decimal (h : Decimal t negative ds) : Operand t negative ds :=
  ⟨t, h, [], [], nofun, nofun, (List.append_nil t).symm⟩

theorem operand_of_digits (h : Digits t ds) : Operand t false ds := operand_of_decimal (.plain h)

theorem usable_or_unusable (rule t : Text) :
    (∃ negative n, Usable t negative n) ∨ ∃ f, Unusable rule t f := by
  by_cases h : ∃ negative ds, Operand t negative ds
  · obtain ⟨negative, ds, h⟩ := h
    obtain hl | hl := Nat.lt_or_ge digitLimit ds.length
    · exact .inr ⟨_, .overlong h hl⟩
    · exact .inl ⟨negative, _, ds, h, hl, rfl⟩
  · exact .inr ⟨_, .notDecimal fun negative ds ho => h ⟨negative, ds, ho⟩⟩

theorem integer?_trim_of_operand (h : Operand t negative ds) :
    integer? t.trim = some ((ofDigits ds).map (signed negative)) := by
  obtain ⟨d, hd, ha⟩ := h
  rw [Text.trim, Text.dropAround_of_around ha hd.bare_isBlank, integer?_of_decimal hd]

/-- What is no decimal between blanks is not read. -/
theorem integer?_trim_eq_none (h : ∀ negative ds, ¬ Operand t negative ds) :
    integer? t.trim = none := by
  refine Option.eq_none_iff_forall_ne_some.2 fun r hr => ?_
  obtain ⟨negative, ds, hd⟩ := exists_decimal_of_integer? hr
  exact h negative ds ⟨t.trim, hd, Text.around_dropAround _ t⟩

theorem operand_of_usable (h : Usable t negative n) : operand rule t = .ok n := by
  obtain ⟨ds, h, hl, rfl⟩ := h
  rw [operand, integer?_trim_of_operand h, ofDigits_eq_ok hl]

theorem operand_of_unusable (h : Unusable rule t f) : operand rule t = .error f := by
  cases h with
  | notDecimal h => rw [operand, integer?_trim_eq_none h]
  | overlong h hl => rw [operand, integer?_trim_of_operand h, ofDigits_eq_error hl]

/-- There is nothing in an operand but blanks, digits and its sign. -/
theorem Operand.notMem {d : CodePoint} (h : Operand t negative ds) (hb : d.isBlank = false)
    (hd : d.digit? = none) (hplus : d ≠ .scalar '+') (hminus : d = .scalar '-' → negative = false) :
    d ∉ t := by
  obtain ⟨core, hcore, before, after, hbefore, hafter, rfl⟩ := h
  have hmid : d ∉ core := by
    cases hcore with
    | plain h => exact h.notMem hd
    | plus h => exact List.not_mem_cons_of_ne_of_not_mem hplus (h.notMem hd)
    | minus h =>
      exact List.not_mem_cons_of_ne_of_not_mem (fun heq => nomatch hminus heq) (h.notMem hd)
  rw [List.mem_append, List.mem_append]
  rintro ((hmem | hmem) | hmem)
  · exact absurd (hbefore d hmem) (by simp [hb])
  · exact hmid hmem
  · exact absurd (hafter d hmem) (by simp [hb])

theorem Operand.ne_nil (h : Operand t negative ds) : t ≠ [] := by
  rintro rfl
  obtain ⟨core, hcore, before, after, -, -, h⟩ := h
  obtain rfl : core = [] := by simp_all
  cases hcore with
  | plain h => exact h.1 rfl

/-- An operand without a minus sign has no hyphen in it. -/
theorem Operand.hyphen_notMem (h : Operand t false ds) : .scalar '-' ∉ t :=
  h.notMem (by decide) (by decide) (by decide) fun _ => rfl

/-- An operand without a hyphen in it has no minus sign. -/
theorem Operand.negative_eq (h : Operand t negative ds) (ht : .scalar '-' ∉ t) :
    negative = false := by
  obtain ⟨core, hcore, before, after, -, -, rfl⟩ := h
  cases hcore with
  | plain | plus => rfl
  | minus => simp at ht

/-- A text that opens with no comparison. -/
def Unopened (t : Text) : Prop := ∀ c rest, ¬ Comparison.Opens t c rest

/-- With an operand in front, a text opens with no comparison. -/
theorem Operand.unopened_append (h : Operand t negative ds) (u : Text) : Unopened (t ++ u) := by
  intro c rest ho
  cases t with
  | nil => exact h.ne_nil rfl
  | cons d t =>
    obtain hd | hd := ho.head?_eq
    all_goals
      obtain rfl := Option.some.inj hd
      exact h.notMem (by decide) (by decide) (by decide) (by rintro ⟨⟩) List.mem_cons_self

theorem Operand.unopened (h : Operand t negative ds) : Unopened t := by
  have happend := h.unopened_append []
  rwa [List.append_nil] at happend

/-! ## The grammar -/

/-- **The grammar of level rules**, without the blanks around them. -/
inductive Spells : Text → LevelRule → Prop
  | comparison {t rest : Text} {c : Comparison} {negative : Bool} {n : Int}
      (ho : Comparison.Opens t c rest) (h : Usable rest negative n) : Spells t (.comparison c n)
  | range {low high : Text} {least greatest : Int} (hl : Usable low false least)
      (hh : Usable high false greatest) :
      Spells (low ++ .scalar '-' :: high) (.range least greatest)
  | exactly {t : Text} {n : Int} (h : Usable t false n) : Spells t (.exactly n)

/-- **A text that is no rule**, and the failure it ends in: too many hyphens come first, and then
the first operand that cannot be used. -/
inductive Defective (rule : Text) : Text → RuleFailure → Prop
  | comparison {t rest : Text} {c : Comparison} {f : RuleFailure} (ho : Comparison.Opens t c rest)
      (h : Unusable rule rest f) : Defective rule t f
  | ragged {t : Text} (ho : Unopened t) (h : 2 ≤ t.count (.scalar '-')) :
      Defective rule t (.unreadable ⟨rule, .notTwoBounds⟩)
  | low {low high : Text} {f : RuleFailure} (ho : Unopened (low ++ .scalar '-' :: high))
      (hl : .scalar '-' ∉ low) (hh : .scalar '-' ∉ high) (h : Unusable rule low f) :
      Defective rule (low ++ .scalar '-' :: high) f
  | high {low high : Text} {n : Int} {f : RuleFailure} (ho : Unopened (low ++ .scalar '-' :: high))
      (hl : Usable low false n) (hh : .scalar '-' ∉ high) (h : Unusable rule high f) :
      Defective rule (low ++ .scalar '-' :: high) f
  | exactly {t : Text} {f : RuleFailure} (ho : Unopened t) (ht : .scalar '-' ∉ t)
      (h : Unusable rule t f) : Defective rule t f

/-- **The four layouts of a text**: it opens with a comparison, or else has no hyphen, one or
more. -/
theorem layout (t : Text) : (∃ c rest, Comparison.Opens t c rest) ∨ Unopened t ∧
    (.scalar '-' ∉ t ∨ (∃ low high, .scalar '-' ∉ low ∧ .scalar '-' ∉ high ∧
      t = low ++ .scalar '-' :: high) ∨ 2 ≤ t.count (.scalar '-')) := by
  by_cases ho : ∃ c rest, Comparison.Opens t c rest
  · exact .inl ho
  refine .inr ⟨fun c rest h => ho ⟨c, rest, h⟩, ?_⟩
  by_cases ht : .scalar '-' ∈ t
  · obtain ⟨low, high, rfl, hl⟩ := List.eq_append_cons_of_mem ht
    by_cases hh : .scalar '-' ∈ high
    · refine .inr (.inr ?_)
      have hcount := List.count_pos_iff.2 hh
      rw [List.count_append, List.count_cons_self]
      omega
    · exact .inr (.inl ⟨low, high, hl, hh, rfl⟩)
  · exact .inl ht

/-- **A text is a rule or it is not**, and then it fails in some way. -/
theorem spells_or_defective (rule t : Text) :
    (∃ r, Spells t r) ∨ ∃ f, Defective rule t f := by
  obtain ⟨c, rest, ho⟩ | ⟨ho, ht | ⟨low, high, hl, hh, rfl⟩ | ht⟩ := layout t
  · obtain ⟨negative, n, h⟩ | ⟨f, h⟩ := usable_or_unusable rule rest
    · exact .inl ⟨_, .comparison ho h⟩
    · exact .inr ⟨f, .comparison ho h⟩
  · obtain ⟨negative, n, h⟩ | ⟨f, h⟩ := usable_or_unusable rule t
    · have ⟨_, hd, _⟩ := h
      obtain rfl := hd.negative_eq ht
      exact .inl ⟨_, .exactly h⟩
    · exact .inr ⟨f, .exactly ho ht h⟩
  · obtain ⟨negative, n, h⟩ | ⟨f, h⟩ := usable_or_unusable rule low
    · have ⟨_, hd, _⟩ := h
      obtain rfl := hd.negative_eq hl
      obtain ⟨negative, n', h'⟩ | ⟨f, h'⟩ := usable_or_unusable rule high
      · have ⟨_, hd', _⟩ := h'
        obtain rfl := hd'.negative_eq hh
        exact .inl ⟨_, .range h h'⟩
      · exact .inr ⟨f, .high ho h hh h'⟩
    · exact .inr ⟨f, .low ho hl hh h⟩
  · exact .inr ⟨_, .ragged ho ht⟩

/-! ## Reading -/

theorem parse_of_opens (h : Comparison.Opens rule.trim c rest) :
    parse rule = (operand rule rest).map (.comparison c) := by
  rw [parse, Comparison.split?_eq_some_iff.2 h]
  rfl

theorem parse_of_hyphen_notMem (ho : Unopened rule.trim) (ht : .scalar '-' ∉ rule.trim) :
    parse rule = (operand rule rule.trim).map .exactly := by
  rw [parse, Comparison.split?_eq_none_iff.2 ho, Text.splitOn_of_notMem ht]
  rfl

theorem parse_of_append (ho : Unopened rule.trim) (hl : .scalar '-' ∉ low)
    (hh : .scalar '-' ∉ high) (ht : rule.trim = low ++ .scalar '-' :: high) :
    parse rule = (operand rule low).bind fun least => (operand rule high).map (.range least) := by
  rw [parse, Comparison.split?_eq_none_iff.2 ho, ht, Text.splitOn_append_cons hl,
    Text.splitOn_of_notMem hh]
  rfl

theorem parse_of_count (ho : Unopened rule.trim) (ht : 2 ≤ rule.trim.count (.scalar '-')) :
    parse rule = .error (.unreadable ⟨rule, .notTwoBounds⟩) := by
  have hlength := Text.length_splitOn (.scalar '-') rule.trim
  rw [parse, Comparison.split?_eq_none_iff.2 ho]
  match hpieces : rule.trim.splitOn (.scalar '-') with
  | [] | [_] | [_, _] =>
    rw [hpieces] at hlength
    simp only [List.length_cons, List.length_nil] at hlength
    omega
  | _ :: _ :: _ :: _ => rfl

/-- **A rule as the grammar has it is read.** -/
theorem parse_of_spells (ht : rule.trim = t) (h : Spells t r) : parse rule = .ok r := by
  cases h with
  | comparison ho h =>
    rw [parse_of_opens (ht ▸ ho), operand_of_usable h]
    rfl
  | range hl hh =>
    have ⟨_, hdl, _⟩ := hl
    have ⟨_, hdh, _⟩ := hh
    rw [parse_of_append (ht ▸ hdl.unopened_append _) hdl.hyphen_notMem hdh.hyphen_notMem ht,
      operand_of_usable hl, operand_of_usable hh]
    rfl
  | exactly h =>
    subst ht
    have ⟨_, hd, _⟩ := h
    rw [parse_of_hyphen_notMem hd.unopened hd.hyphen_notMem, operand_of_usable h]
    rfl

/-- **A defective text is not read**, for the reason it is defective. -/
theorem parse_of_defective (ht : rule.trim = t) (h : Defective rule t f) :
    parse rule = .error f := by
  cases h with
  | comparison ho h =>
    rw [parse_of_opens (ht ▸ ho), operand_of_unusable h]
    rfl
  | ragged ho h => exact parse_of_count (ht ▸ ho) (ht ▸ h)
  | low ho hl hh h =>
    rw [parse_of_append (ht ▸ ho) hl hh ht, operand_of_unusable h]
    rfl
  | high ho hl hh h =>
    have ⟨_, hd, _⟩ := hl
    rw [parse_of_append (ht ▸ ho) hd.hyphen_notMem hh ht, operand_of_usable hl,
      operand_of_unusable h]
    rfl
  | exactly ho hn h =>
    subst ht
    rw [parse_of_hyphen_notMem ho hn, operand_of_unusable h]
    rfl

/-- **What is read is what the grammar has.** -/
theorem parse_eq_ok_iff : parse rule = .ok r ↔ Spells rule.trim r := by
  refine ⟨fun h => ?_, parse_of_spells rfl⟩
  obtain ⟨r', h'⟩ | ⟨f, h'⟩ := spells_or_defective rule rule.trim
  · rw [parse_of_spells rfl h'] at h
    exact Except.ok.inj h ▸ h'
  · rw [parse_of_defective rfl h'] at h
    cases h

/-- **What is not read is defective.** -/
theorem parse_eq_error_iff : parse rule = .error f ↔ Defective rule rule.trim f := by
  refine ⟨fun h => ?_, parse_of_defective rfl⟩
  obtain ⟨r, h'⟩ | ⟨f', h'⟩ := spells_or_defective rule rule.trim
  · rw [parse_of_spells rfl h'] at h
    cases h
  · rw [parse_of_defective rfl h'] at h
    exact Except.error.inj h ▸ h'

/-! ## Levels -/

/-- **The levels a rule denotes**: a half line, an interval with both ends, or a point. -/
def levels : LevelRule → Set Int
  | .comparison .atLeast n => {level | n ≤ level}
  | .comparison .above n => {level | n < level}
  | .comparison .atMost n => {level | level ≤ n}
  | .comparison .below n => {level | level < n}
  | .range least greatest => {level | least ≤ level ∧ level ≤ greatest}
  | .exactly n => {n}

theorem admits_iff_mem_levels : r.admits level = true ↔ level ∈ r.levels := by
  cases r with
  | comparison c n =>
    cases c with
    | atLeast => simp [admits, levels, Comparison.holds, ← Int.compare_ne_lt]
    | above => simp [admits, levels, Comparison.holds, Int.compare_eq_gt]
    | atMost => simp [admits, levels, Comparison.holds, ← Int.compare_ne_gt]
    | below => simp [admits, levels, Comparison.holds, Int.compare_eq_lt]
  | range least greatest => simp [admits, levels]
  | exactly n => simp [admits, levels]

/-! ## Answers -/

theorem accepts_eq_ok_iff {b : Bool} : accepts rule level = .ok b ↔
    ∃ r, Spells rule.trim r ∧ (b = true ↔ level ∈ r.levels) := by
  simp only [← parse_eq_ok_iff, ← admits_iff_mem_levels]
  rw [accepts]
  cases parse rule with
  | error f => simp [Functor.map, Except.map]
  | ok r =>
    constructor
    · rintro ⟨⟩
      exact ⟨r, rfl, Iff.rfl⟩
    · rintro ⟨_, ⟨⟩, h⟩
      exact congrArg Except.ok (Bool.eq_iff_iff.2 h.symm)

theorem accepts_eq_error_iff : accepts rule level = .error f ↔ Defective rule rule.trim f := by
  rw [← parse_eq_error_iff, accepts]
  cases parse rule <;> simp [Functor.map, Except.map]

theorem evaluate_eq_error_iff {o : Overlong} :
    (evaluate rule level).answer = .error o ↔ Defective rule rule.trim (.overlong o) := by
  rw [evaluate, Verdict.answer_ofMatch_eq_error_iff, accepts_eq_error_iff]

/-- **A level rule answers as it is written.**  Matching it gives whether the level is among those
the rule denotes when it is spelled by the grammar, and fails as the text is defective otherwise;
evaluating it answers the same, except that a rule that cannot be read answers no and leaves its
fault behind, while a numeral of too many digits leaves no answer. -/
theorem answers_as_spelled (rule : Text) (level : Int) :
    (∀ b, accepts rule level = .ok b ↔
      ∃ r, Spells rule.trim r ∧ (b = true ↔ level ∈ r.levels)) ∧
    (∀ f, accepts rule level = .error f ↔ Defective rule rule.trim f) ∧
    (∀ b, (evaluate rule level).answer = .ok b ↔ accepts rule level = .ok b ∨
      b = false ∧ ∃ fault, Defective rule rule.trim (.unreadable fault)) ∧
    (∀ o, (evaluate rule level).answer = .error o ↔ Defective rule rule.trim (.overlong o)) ∧
    ∀ fault, fault ∈ (evaluate rule level).faults ↔
      Defective rule rule.trim (.unreadable fault) := by
  refine ⟨fun b => accepts_eq_ok_iff, fun f => accepts_eq_error_iff, fun b => ?_,
    fun o => evaluate_eq_error_iff, fun fault => ?_⟩
  · simp only [evaluate, Verdict.answer_ofMatch_eq_ok_iff, accepts_eq_error_iff]
  · simp only [evaluate, Verdict.mem_faults_ofMatch_iff, accepts_eq_error_iff]

-- An operand of a range may have a plus sign; a minus sign counts as a hyphen.
example : accepts " +21 - +30" 25 = .ok true := by decide
example : accepts "-5-5" 0 = .error (.unreadable ⟨"-5-5", .notTwoBounds⟩) := by decide

end LevelRule

end FeatureFlags

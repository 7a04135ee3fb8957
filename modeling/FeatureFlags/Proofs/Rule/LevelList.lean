import FeatureFlags.Proofs.Rule.LevelGrammar

/-!
# Proofs/Rule/LevelList — what a list of level rules answers

A list of level rules asks for one that matches, whatever else is in it: a rule that cannot be read
answers no and the search goes on.  Only a numeral of too many digits in a deciding place is not met
with an answer.  It ends the search, and then it does matter which rules have come before
(`evaluateAny_order_matters`).
-/

namespace FeatureFlags

open Numeral

namespace LevelRule

variable {rule : Text} {rules : List Text} {level : Int} {o : Overlong}

/-- **A list is left without an answer** by a rule whose deciding operand has too many digits, once
all rules before it have answered no. -/
theorem evaluateAny_eq_error_iff : (evaluateAny rules level).answer = .error o ↔
    ∃ before rule after, rules = before ++ rule :: after ∧
      (∀ r ∈ before, (evaluate r level).answer = .ok false) ∧
      Defective rule rule.trim (.overlong o) := by
  by_cases hne : rules = []
  · subst hne
    refine iff_of_false nofun ?_
    rintro ⟨before, rule, after, h, -⟩
    exact absurd h (by simp)
  · rw [evaluateAny, Verdict.any_of_ne_nil hne, Verdict.answer_firstMatch_eq_iff (by simp)]
    simp only [evaluate_eq_error_iff]

/-- **A list of level rules answers whether one of them matches, in every order, exactly as long as
no rule has a deciding operand of too many digits.**  On the left are all lists of the same rules, in
any order and any number of times; such a list has an answer, and it is yes when there are no rules
or one of them evaluates to yes.  Rules that cannot be read are no exception.  Which lists are left
without an answer is told by the first part. -/
theorem evaluateAny_matches_iff (rules : List Text) (level : Int) :
    (∀ o, (evaluateAny rules level).answer = .error o ↔ ∃ before rule after,
      rules = before ++ rule :: after ∧ (∀ r ∈ before, (evaluate r level).answer = .ok false) ∧
      Defective rule rule.trim (.overlong o)) ∧
    ((∀ rules' : List Text, (∀ r, r ∈ rules' ↔ r ∈ rules) →
      ∃ b, (evaluateAny rules' level).answer = .ok b ∧
        (b = true ↔ rules = [] ∨ ∃ r ∈ rules, (evaluate r level).answer = .ok true)) ↔
    ∀ r ∈ rules, ∀ o, ¬ Defective r r.trim (.overlong o)) := by
  refine ⟨fun o => evaluateAny_eq_error_iff, ?_⟩
  simp only [evaluateAny, Verdict.any_of_same_members_iff, Ne, evaluate_eq_error_iff]

/-! ## A numeral of too many digits -/

/-- Digits beyond the limit are a rule that leaves no answer. -/
theorem defective_of_digits {ds : List Nat} (h : Digits rule ds) (hl : digitLimit < ds.length) :
    Defective rule rule.trim (.overlong ⟨ds.length⟩) := by
  have ho := operand_of_digits h
  rw [Text.trim, Text.dropAround_of_bare (Decimal.plain h).bare_isBlank]
  exact .exactly ho.unopened ho.hyphen_notMem (.overlong ho hl)

/-- **One bad rule hides a good one, if it comes first**: behind `30` an operand of 4301 digits is
never looked at, before `30` it leaves the list without an answer. -/
theorem evaluateAny_order_matters :
    (evaluateAny ["30", List.replicate 4301 (.scalar '1')] 30).answer = .ok true ∧
    (evaluateAny [List.replicate 4301 (.scalar '1'), "30"] 30).answer = .error ⟨4301⟩ := by
  have hd : Digits (List.replicate 4301 (.scalar '1')) (List.replicate 4301 1) :=
    ⟨List.cons_ne_nil _ _, by rw [List.map_replicate, List.map_replicate]; rfl⟩
  have hbad := defective_of_digits hd (by rw [List.length_replicate]; decide)
  rw [List.length_replicate] at hbad
  exact ⟨rfl, evaluateAny_eq_error_iff.2 ⟨[], _, _, rfl, nofun, hbad⟩⟩

end LevelRule

end FeatureFlags

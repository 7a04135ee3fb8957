import FeatureFlags.Proofs.Text.Parts
import FeatureFlags.Rule.Basic

/-!
# Proofs/Rule/Basic — what a rule opens with, and what becomes of its failures

A text opens with the longest comparison that fits (`Opens`), so that what is behind `>` or `<` does
not start with `=`.  The list of comparisons is in an order that finds just this one
(`split?_eq_some_iff`).

The verdict on a rule keeps an answer and a numeral of too many digits as they are, and turns a rule
that cannot be read into no.  The verdict on a list is that of the first rule that does not answer no
(`answer_firstMatch`).  As long as each rule has an answer the order plays no part in this, and no
longer than that (`any_of_same_members_iff`).  How a single rule is evaluated is left open here.
-/

namespace FeatureFlags

/-! ## Comparisons -/

namespace Comparison

variable {t rest : Text} {c : Comparison}

/-- **The comparison a text opens with**, and what is behind it. -/
inductive Opens : Text → Comparison → Text → Prop
  | atLeast (rest : Text) : Opens (.scalar '>' :: .scalar '=' :: rest) .atLeast rest
  | above {rest : Text} (h : rest.head? ≠ some (.scalar '=')) :
      Opens (.scalar '>' :: rest) .above rest
  | atMost (rest : Text) : Opens (.scalar '<' :: .scalar '=' :: rest) .atMost rest
  | below {rest : Text} (h : rest.head? ≠ some (.scalar '=')) :
      Opens (.scalar '<' :: rest) .below rest

theorem Opens.head?_eq (h : Opens t c rest) :
    t.head? = some (.scalar '>') ∨ t.head? = some (.scalar '<') := by
  cases h with
  | atLeast => exact .inl rfl
  | above => exact .inl rfl
  | atMost => exact .inr rfl
  | below => exact .inr rfl

theorem Opens.head?_ne (h : Opens t c rest) (hc : c = .above ∨ c = .below) :
    rest.head? ≠ some (.scalar '=') := by
  cases h with
  | above h => exact h
  | below h => exact h
  | atLeast => obtain hc | hc := hc <;> cases hc
  | atMost => obtain hc | hc := hc <;> cases hc

/-- **Behind its symbol a comparison reads what is there**, unless an equals sign makes the symbol of
another one of it. -/
theorem opens_symbol_append_iff : Opens (c.symbol ++ rest) c rest ↔
    (c = .above ∨ c = .below → rest.head? ≠ some (.scalar '=')) := by
  refine ⟨Opens.head?_ne, fun h => ?_⟩
  cases c with
  | atLeast => exact .atLeast rest
  | above => exact .above (h (.inl rfl))
  | atMost => exact .atMost rest
  | below => exact .below (h (.inr rfl))

/-- The code points of the symbols. -/
theorem mem_symbol {d : CodePoint} (h : d ∈ c.symbol) :
    d ∈ [CodePoint.scalar '<', .scalar '=', .scalar '>'] := by
  have hsymbols : ∀ c : Comparison, ∀ d ∈ c.symbol,
      d ∈ [CodePoint.scalar '<', .scalar '=', .scalar '>'] := by
    intro c
    cases c <;> decide
  exact hsymbols c d h

theorem symbol_ne_nil (c : Comparison) : c.symbol ≠ [] := by cases c <;> decide

/-- There are no blanks in a symbol. -/
theorem bare_symbol (c : Comparison) : c.symbol.Bare CodePoint.isBlank := by
  have hsigns : ∀ d ∈ [CodePoint.scalar '<', .scalar '=', .scalar '>'], d.isBlank = false := by
    decide
  exact .of_forall fun d hd => hsigns d (mem_symbol hd)

/-- The longer symbols are tried before the shorter ones. -/
theorem split?_eq_or (t : Text) : split? t =
    ((t.after? [.scalar '>', .scalar '=']).map (atLeast, ·)).or
      (((t.after? [.scalar '>']).map (above, ·)).or
        (((t.after? [.scalar '<', .scalar '=']).map (atMost, ·)).or
          ((t.after? [.scalar '<']).map (below, ·)))) := by
  have hs : atLeast.symbol = [.scalar '>', .scalar '='] ∧ above.symbol = [.scalar '>'] ∧
      atMost.symbol = [.scalar '<', .scalar '='] ∧ below.symbol = [.scalar '<'] := by decide
  rw [split?, all]
  simp only [List.findSome?_cons, hs, List.findSome?_nil]
  cases t.after? [.scalar '>', .scalar '='] <;> cases t.after? [.scalar '>'] <;>
    cases t.after? [.scalar '<', .scalar '='] <;> cases t.after? [.scalar '<'] <;> rfl

/-- A text that starts with the first code point of a symbol, and not with the whole of it. -/
theorem after?_pair_eq_none_iff {u : Text} {d e : CodePoint} :
    Text.after? (d :: u) [d, e] = none ↔ u.head? ≠ some e := by
  rw [Option.eq_none_iff_forall_ne_some, Ne, List.head?_eq_some_iff, not_exists]
  refine forall_congr' fun v => not_congr ?_
  rw [Text.after?_eq_some_iff, List.cons_append, List.cons.injEq, and_iff_right rfl]
  rfl

/-- **The comparison read off a text is the one it opens with.** -/
theorem split?_eq_some_iff : split? t = some (c, rest) ↔ Opens t c rest := by
  rw [split?_eq_or]
  constructor
  · intro h
    simp only [Option.or_eq_some_iff, Option.map_eq_some_iff, Option.map_eq_none_iff,
      Prod.mk.injEq] at h
    obtain ⟨u, h, rfl, rfl⟩ | ⟨hlong, ⟨u, h, rfl, rfl⟩ | ⟨-, ⟨u, h, rfl, rfl⟩ |
      ⟨hlong, u, h, rfl, rfl⟩⟩⟩ := h
    · rw [Text.after?_eq_some_iff.1 h]
      exact .atLeast u
    · obtain rfl := Text.after?_eq_some_iff.1 h
      exact .above (after?_pair_eq_none_iff.1 hlong)
    · rw [Text.after?_eq_some_iff.1 h]
      exact .atMost u
    · obtain rfl := Text.after?_eq_some_iff.1 h
      exact .below (after?_pair_eq_none_iff.1 hlong)
  · intro h
    cases h with
    | atLeast => simp [Text.after?]
    | above h =>
      rw [after?_pair_eq_none_iff.2 h]
      simp [Text.after?]
    | atMost => simp [Text.after?]
    | below h =>
      rw [after?_pair_eq_none_iff.2 h]
      simp [Text.after?]

theorem split?_eq_none_iff : split? t = none ↔ ∀ c rest, ¬ Opens t c rest := by
  simp only [← split?_eq_some_iff, Option.eq_none_iff_forall_ne_some, Prod.forall, Ne]

end Comparison

namespace Verdict

/-! ## The outcome of one rule -/

variable {m : Except RuleFailure Bool} {b : Bool} {o : Overlong} {fault : RuleFault}

theorem answer_ofMatch_eq_ok_iff : (ofMatch m).answer = .ok b ↔
    m = .ok b ∨ b = false ∧ ∃ fault, m = .error (.unreadable fault) := by
  obtain (fault | o) | b := m <;> simp [ofMatch, eq_comm]

theorem answer_ofMatch_eq_error_iff :
    (ofMatch m).answer = .error o ↔ m = .error (.overlong o) := by
  obtain (fault | o) | b := m <;> simp [ofMatch]

theorem mem_faults_ofMatch_iff :
    fault ∈ (ofMatch m).faults ↔ m = .error (.unreadable fault) := by
  obtain (fault | o) | b := m <;> simp [ofMatch, eq_comm]

/-! ## The outcome of a list of rules -/

variable {α : Type} {evaluate : Text → α → Verdict} {rules : List Text} {present : α}

/-- **A list is answered by the first of its rules that does not answer no**, and with no if all of
them do. -/
theorem answer_firstMatch : (firstMatch evaluate present rules).answer =
    match rules.find? fun rule => (evaluate rule present).answer ≠ .ok false with
    | some rule => (evaluate rule present).answer
    | none => .ok false := by
  induction rules with
  | nil => rfl
  | cons rule rules ih =>
    rw [firstMatch, List.find?_cons]
    cases hv : evaluate rule present with
    | mk faults answer =>
      obtain o | _ | _ := answer
      · simp [hv]
      · simpa using ih
      · simp [hv]

/-- An answer other than no is that of one rule, behind rules that all answer no. -/
theorem answer_firstMatch_eq_iff {a : Except Overlong Bool} (ha : a ≠ .ok false) :
    (firstMatch evaluate present rules).answer = a ↔ ∃ before rule after,
      rules = before ++ rule :: after ∧ (∀ r ∈ before, (evaluate r present).answer = .ok false) ∧
      (evaluate rule present).answer = a := by
  rw [answer_firstMatch]
  constructor
  · intro h
    cases hfind : rules.find? fun rule => (evaluate rule present).answer ≠ .ok false with
    | none =>
      rw [hfind] at h
      exact absurd h.symm ha
    | some rule =>
      rw [hfind] at h
      obtain ⟨-, before, after, hrules, hbefore⟩ := List.find?_eq_some_iff_append.1 hfind
      exact ⟨before, rule, after, hrules, by simpa using hbefore, h⟩
  · rintro ⟨before, rule, after, hrules, hbefore, h⟩
    rw [List.find?_eq_some_iff_append.2
      ⟨by simpa [h] using ha, before, after, hrules, by simpa using hbefore⟩]
    exact h

/-- The answer is no when every rule answers no, and only then. -/
theorem answer_firstMatch_eq_no_iff : (firstMatch evaluate present rules).answer = .ok false ↔
    ∀ r ∈ rules, (evaluate r present).answer = .ok false := by
  rw [answer_firstMatch]
  cases hfind : rules.find? fun rule => (evaluate rule present).answer ≠ .ok false with
  | none =>
    refine iff_of_true rfl fun r hr => ?_
    simpa using List.find?_eq_none.1 hfind r hr
  | some rule =>
    have hrule : (evaluate rule present).answer ≠ .ok false := by
      simpa using List.find?_some hfind
    exact iff_of_false hrule fun h => hrule (h rule (List.mem_of_find?_eq_some hfind))

theorem any_nil : any evaluate [] present = ⟨[], .ok true⟩ := rfl

theorem any_of_ne_nil (h : rules ≠ []) :
    any evaluate rules present = firstMatch evaluate present rules :=
  if_neg (by rwa [List.isEmpty_iff])

/-- **Where every rule has an answer**, so has the list, and it is yes if there is no rule or one of
them matches. -/
theorem exists_answer_any (h : ∀ r ∈ rules, ∀ o, (evaluate r present).answer ≠ .error o) :
    ∃ b, (any evaluate rules present).answer = .ok b ∧
      (b = true ↔ rules = [] ∨ ∃ r ∈ rules, (evaluate r present).answer = .ok true) := by
  by_cases hne : rules = []
  · subst hne
    exact ⟨true, congrArg Verdict.answer any_nil, by simp⟩
  rw [any_of_ne_nil hne]
  match ha : (firstMatch evaluate present rules).answer with
  | .error o =>
    obtain ⟨before, rule, after, rfl, -, hrule⟩ := (answer_firstMatch_eq_iff (by simp)).1 ha
    exact absurd hrule (h rule (by simp) o)
  | .ok true =>
    obtain ⟨before, rule, after, rfl, -, hrule⟩ := (answer_firstMatch_eq_iff (by simp)).1 ha
    exact ⟨true, rfl, iff_of_true rfl (.inr ⟨rule, by simp, hrule⟩)⟩
  | .ok false =>
    have hno := answer_firstMatch_eq_no_iff.1 ha
    refine ⟨false, rfl, iff_of_false Bool.false_ne_true ?_⟩
    rintro (hnil | ⟨r, hr, hyes⟩)
    · exact hne hnil
    · rw [hno r hr] at hyes
      cases hyes

/-- **The order and the number of times** that rules are listed do not matter, and there is always an
answer, exactly when every single rule has one: a rule without an answer leaves the list without one
as soon as it is put first. -/
theorem any_of_same_members_iff :
    (∀ rules' : List Text, (∀ r, r ∈ rules' ↔ r ∈ rules) →
      ∃ b, (any evaluate rules' present).answer = .ok b ∧
        (b = true ↔ rules = [] ∨ ∃ r ∈ rules, (evaluate r present).answer = .ok true)) ↔
    ∀ r ∈ rules, ∀ o, (evaluate r present).answer ≠ .error o := by
  constructor
  · intro h r hr o hrule
    have hmem : ∀ r', r' ∈ r :: rules ↔ r' ∈ rules := by simp [hr]
    obtain ⟨b, hb, -⟩ := h (r :: rules) hmem
    have hfirst : (firstMatch evaluate present (r :: rules)).answer = .error o :=
      (answer_firstMatch_eq_iff (by simp)).2 ⟨[], r, rules, rfl, nofun, hrule⟩
    rw [any_of_ne_nil (List.cons_ne_nil r rules), hfirst] at hb
    cases hb
  · intro h rules' hsame
    obtain ⟨b, hb, hiff⟩ := exists_answer_any fun r hr => h r ((hsame r).1 hr)
    refine ⟨b, hb, hiff.trans ?_⟩
    simp only [List.eq_nil_iff_forall_not_mem, hsame]

end Verdict

end FeatureFlags

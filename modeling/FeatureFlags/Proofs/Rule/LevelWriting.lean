import FeatureFlags.Proofs.Rule.LevelGrammar
import FeatureFlags.Proofs.Text.Natural

/-!
# Proofs/Rule/LevelWriting — level rules as they are printed, and what is read back

A level rule is printed with its integers in decimal digits:

    at least -5     >=-5        behind a symbol a minus sign is a sign
    from 21 to 30   21-30       everywhere else it is the hyphen of a range

A half line may start anywhere, but the ends of an interval and a single level have to be natural
numbers to be printed so.  Such a rule, with no number of too many digits in it (`Writable`), is
spelled by the grammar just as it is printed (`spells_write`), and so it is read back as the rule it
is.  A list of them then answers whether one of its sets has the level (`answer_evaluateAny_write`),
unless it is empty: a list without rules restricts nothing, while no level is in an empty union.
-/

namespace FeatureFlags

open Numeral Json Json.Parser

namespace LevelRule

variable {r : LevelRule} {a b : Nat} {n level : Int}

/-! ## Printing -/

/-- **A level rule as it is printed.** -/
def write : LevelRule → Text
  | .comparison c n => c.symbol ++ Text.ofInt n
  | .range least greatest => Text.ofInt least ++ .scalar '-' :: Text.ofInt greatest
  | .exactly n => Text.ofInt n

/-- **A rule that can be printed**: its numbers are short, and none but the bound of a half line is
below zero. -/
inductive Writable : LevelRule → Prop
  | comparison (c : Comparison) {n : Int} (h : Short n.natAbs) : Writable (.comparison c n)
  | range {a b : Nat} (ha : Short a) (hb : Short b) : Writable (.range a b)
  | exactly {a : Nat} (h : Short a) : Writable (.exactly a)

/-! ## Reading back -/

/-- **An integer is printed as a decimal**, with a minus sign if it is negative. -/
theorem exists_decimal_ofInt (n : Int) : ∃ negative,
    Decimal (Text.ofInt n) negative (values (Text.ofNat n.natAbs)) ∧
      n = integer negative (values (Text.ofNat n.natAbs)) := by
  have hinteger (negative : Bool) (a : Nat) :
      integer negative (values (Text.ofNat a)) = signed negative a := by
    rw [integer, ← value_eq_ofDigits, value_values_ofNat]
  cases n with
  | ofNat a => exact ⟨false, .plain (digits_ofNat a), (hinteger false a).symm⟩
  | negSucc a => exact ⟨true, .minus (digits_ofNat (a + 1)), (hinteger true (a + 1)).symm⟩

/-- A short integer is an operand. -/
theorem exists_usable_ofInt (h : Short n.natAbs) : ∃ negative, Usable (Text.ofInt n) negative n := by
  obtain ⟨negative, hd, hn⟩ := exists_decimal_ofInt n
  exact ⟨negative, _, operand_of_decimal hd, by rwa [length_values_ofNat], hn⟩

/-- A short natural number is an operand without a sign. -/
theorem usable_ofNat (h : Short a) : Usable (Text.ofNat a) false a := by
  obtain ⟨negative, husable⟩ := exists_usable_ofInt (n := a) h
  have ⟨_, ho, _⟩ := husable
  obtain rfl := ho.negative_eq (operand_of_digits (digits_ofNat a)).hyphen_notMem
  exact husable

theorem ofInt_head?_ne (n : Int) : (Text.ofInt n).head? ≠ some (.scalar '=') := by
  obtain ⟨negative, hd, -⟩ := exists_decimal_ofInt n
  intro hhead
  exact (operand_of_decimal hd).notMem (by decide) (by decide) (by decide) (by rintro ⟨⟩)
    (List.mem_of_head? hhead)

/-- **A printed rule is spelled by the grammar.** -/
theorem spells_write (h : Writable r) : Spells r.write r := by
  cases h with
  | comparison c h =>
    obtain ⟨negative, hn⟩ := exists_usable_ofInt h
    exact .comparison (Comparison.opens_symbol_append_iff.2 fun _ => ofInt_head?_ne _) hn
  | range ha hb => exact .range (usable_ofNat ha) (usable_ofNat hb)
  | exactly h => exact .exactly (usable_ofNat h)

/-- There are no blanks around a printed rule. -/
theorem trim_write (r : LevelRule) : r.write.trim = r.write := by
  have hbare (n : Int) : (Text.ofInt n).Bare CodePoint.isBlank := by
    obtain ⟨negative, hd, -⟩ := exists_decimal_ofInt n
    exact hd.bare_isBlank
  have hne (n : Int) : Text.ofInt n ≠ [] := by
    obtain ⟨negative, hd, -⟩ := exists_decimal_ofInt n
    exact (operand_of_decimal hd).ne_nil
  refine Text.dropAround_of_bare ?_
  cases r with
  | comparison c n => exact c.bare_symbol.append (hbare n) c.symbol_ne_nil (hne n)
  | range least greatest =>
    have hhyphen : Text.Bare CodePoint.isBlank [.scalar '-'] := .of_forall (by decide)
    exact (hbare least).append (hhyphen.append (hbare greatest) (List.cons_ne_nil _ _) (hne _))
      (hne least) (List.cons_ne_nil _ _)
  | exactly n => exact hbare n

/-- **A printed rule is read back.** -/
theorem parse_write (h : Writable r) : parse r.write = .ok r :=
  parse_of_spells (trim_write r) (spells_write h)

/-! ## Answers -/

/-- **A printed rule answers with the set it denotes.** -/
theorem answer_write (h : Writable r) (level : Int) :
    (evaluate r.write level).answer = .ok (r.admits level) := by
  rw [evaluate, accepts, parse_write h]
  rfl

/-- **A list of printed rules answers whether one of their sets has the level**, if it is not
empty. -/
theorem answer_evaluateAny_write {rules : List LevelRule} (hne : rules ≠ [])
    (h : ∀ r ∈ rules, Writable r) (level : Int) :
    ∃ yes, (evaluateAny (rules.map write) level).answer = .ok yes ∧
      (yes = true ↔ ∃ r ∈ rules, level ∈ r.levels) := by
  have hanswers : ∀ rule ∈ rules.map write, ∀ o, (evaluate rule level).answer ≠ .error o := by
    refine List.forall_mem_map.2 fun r hr o => ?_
    rw [answer_write (h r hr)]
    exact nofun
  obtain ⟨yes, hyes, hiff⟩ := Verdict.exists_answer_any hanswers
  refine ⟨yes, hyes, hiff.trans ?_⟩
  rw [List.map_eq_nil_iff, or_iff_right hne]
  simp only [List.mem_map, exists_exists_and_eq_and]
  refine exists_congr fun r => and_congr_right fun hr => ?_
  rw [answer_write (h r hr), Except.ok.injEq, admits_iff_mem_levels]

/-- **Printed rules are read back as what they mean.**  A half line, at its sign, is read with the
integer that is printed behind the sign, negative or not, a natural number as a single level, and two
of them around a hyphen as the levels between, none if they are the wrong way round; and a list of
one such rule or more answers whether the level is in the union of their sets. -/
theorem answers_as_printed :
    (∀ n : Int, Short n.natAbs → ∀ level : Int,
      (evaluate (">=" ++ Text.ofInt n) level).answer = .ok (decide (n ≤ level)) ∧
      (evaluate (">" ++ Text.ofInt n) level).answer = .ok (decide (n < level)) ∧
      (evaluate ("<=" ++ Text.ofInt n) level).answer = .ok (decide (level ≤ n)) ∧
      (evaluate ("<" ++ Text.ofInt n) level).answer = .ok (decide (level < n))) ∧
    (∀ a b : Nat, Short a → Short b → ∀ level : Int,
      (evaluate (Text.ofNat a) level).answer = .ok (decide (level = a)) ∧
      (evaluate (Text.ofNat a ++ "-" ++ Text.ofNat b) level).answer =
        .ok (decide (a ≤ level ∧ level ≤ b))) ∧
    ∀ rules : List LevelRule, rules ≠ [] → (∀ r ∈ rules, Writable r) → ∀ level : Int,
      ∃ yes, (evaluateAny (rules.map write) level).answer = .ok yes ∧
        (yes = true ↔ ∃ r ∈ rules, level ∈ r.levels) := by
  have hanswer {r : LevelRule} (h : Writable r) (level : Int) [Decidable (level ∈ r.levels)] :
      (evaluate r.write level).answer = .ok (decide (level ∈ r.levels)) := by
    rw [answer_write h, Bool.eq_iff_iff.2 (admits_iff_mem_levels.trans decide_eq_true_iff.symm)]
  refine ⟨fun n hn level => ⟨?_, ?_, ?_, ?_⟩, fun a b ha hb level => ⟨?_, ?_⟩,
    fun rules hne h level => answer_evaluateAny_write hne h level⟩
  · exact @hanswer _ (.comparison .atLeast hn) level (inferInstanceAs (Decidable (n ≤ level)))
  · exact @hanswer _ (.comparison .above hn) level (inferInstanceAs (Decidable (n < level)))
  · exact @hanswer _ (.comparison .atMost hn) level (inferInstanceAs (Decidable (level ≤ n)))
  · exact @hanswer _ (.comparison .below hn) level (inferInstanceAs (Decidable (level < n)))
  · exact @hanswer _ (.exactly ha) level (inferInstanceAs (Decidable (level = a)))
  · rw [List.append_assoc]
    exact @hanswer _ (.range ha hb) level (inferInstanceAs (Decidable (a ≤ level ∧ level ≤ b)))

/-- A half line from below zero, an interval, and the two of them with a single level in a list. -/
theorem answers_as_printed_union :
    (Short (-5 : Int).natAbs ∧ (evaluate (">=" ++ Text.ofInt (-5)) (-6)).answer = .ok false) ∧
    (Short 21 ∧ Short 30 ∧
      (evaluate (Text.ofNat 21 ++ "-" ++ Text.ofNat 30) 25).answer = .ok true) ∧
    let rules := [.comparison .below (-5), .range 21 30, .exactly 40]
    (rules ≠ [] ∧ ∀ r ∈ rules, Writable r) ∧ rules.map write = ["<-5", "21-30", "40"] ∧
      (evaluateAny (rules.map write) 40).answer = .ok true := by
  have hfive : Short (-5 : Int).natAbs := by decide
  have hlow : Short 21 := by decide
  have hhigh : Short 30 := by decide
  have hone : Short 40 := by decide
  obtain ⟨hhalf, hinterval, hunion⟩ := answers_as_printed
  have hwritable : ∀ r ∈ [.comparison .below (-5), .range 21 30, .exactly 40], Writable r := by
    simp only [List.forall_mem_cons, List.not_mem_nil, false_imp_iff, implies_true, and_true]
    exact ⟨.comparison .below hfive, .range hlow hhigh, .exactly hone⟩
  obtain ⟨yes, hyes, hiff⟩ := hunion _ (List.cons_ne_nil _ _) hwritable 40
  obtain rfl : yes = true := hiff.2 ⟨.exactly 40, by simp, rfl⟩
  exact ⟨⟨hfive, (hhalf (-5) hfive (-6)).1⟩, ⟨hlow, hhigh, (hinterval 21 30 hlow hhigh 25).2⟩,
    ⟨List.cons_ne_nil _ _, hwritable⟩, by decide, hyes⟩

/-- **The empty union is the exception**: no level is in it, but a list without rules answers yes. -/
theorem not_answers_as_printed_nil : ¬ ∀ rules : List LevelRule, (∀ r ∈ rules, Writable r) →
    ∀ level : Int, ∃ yes, (evaluateAny (rules.map write) level).answer = .ok yes ∧
      (yes = true ↔ ∃ r ∈ rules, level ∈ r.levels) := by
  intro h
  obtain ⟨yes, hyes, hiff⟩ := h [] nofun 7
  have hanswer : (evaluateAny (([] : List LevelRule).map write) 7).answer = .ok true := rfl
  obtain rfl : yes = true := Except.ok.inj (hyes.symm.trans hanswer)
  obtain ⟨r, hr, -⟩ := hiff.1 rfl
  cases hr

end LevelRule

end FeatureFlags

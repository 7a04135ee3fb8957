import FeatureFlags.Rule.Basic

/-!
# Rule/Level — rules on the platform level

A level rule denotes a set of integers: `>=29`, `>29`, `<=33` and `<33` a half line, `21-30` the
interval with both ends, `30` one level.  Blanks around a rule and around an operand do not count.
A comparison takes an operand with either sign; otherwise a hyphen is the mark of a range, so that
there must be exactly one, and the lower bound is read before the upper.
-/

namespace FeatureFlags

/-- **A level rule.** -/
inductive LevelRule where
  | comparison (c : Comparison) (operand : Int)
  | range (least greatest : Int)
  | exactly (level : Int)
deriving DecidableEq

namespace LevelRule

/-- **An operand** of a rule: blanks around an optional sign and decimal digits. -/
def operand (rule text : Text) : Except RuleFailure Int :=
  match Numeral.integer? text.trim with
  | none => .error (.unreadable ⟨rule, .notInteger text.trim⟩)
  | some (.error o) => .error (.overlong o)
  | some (.ok n) => .ok n

/-- **Reading a rule.** -/
def parse (rule : Text) : Except RuleFailure LevelRule := do
  let condition := rule.trim
  match Comparison.split? condition with
  | some (c, rest) => return .comparison c (← operand rule rest)
  | none =>
    match condition.splitOn (.scalar '-') with
    | [_] => return .exactly (← operand rule condition)
    | [low, high] => return .range (← operand rule low) (← operand rule high)
    | _ => throw (.unreadable ⟨rule, .notTwoBounds⟩)

/-- **The set of levels a rule denotes.** -/
def admits : LevelRule → Int → Bool
  | .comparison c n, level => c.holds (compare level n)
  | .range least greatest, level => least ≤ level && level ≤ greatest
  | .exactly n, level => level == n

/-- Whether a rule as written accepts a level. -/
def accepts (rule : Text) (level : Int) : Except RuleFailure Bool := (·.admits level) <$> parse rule

/-- **Evaluating a rule**: a rule that cannot be read does not match. -/
def evaluate (rule : Text) (level : Int) : Verdict := .ofMatch (accepts rule level)

/-- **Evaluating a list of rules.** -/
def evaluateAny (rules : List Text) (level : Int) : Verdict := .any evaluate rules level

end LevelRule

end FeatureFlags

import FeatureFlags.Text.Numeral

/-!
# Rule/Basic — what level rules and version rules have in common

A rule opens with a comparison or is a range or a single value.  A rule that cannot be read never
matches; evaluating it leaves a warning and answers no.  A list of rules asks for one that matches,
and an empty list restricts nothing.
-/

namespace FeatureFlags

/-- **The comparisons a rule may open with.** -/
inductive Comparison where
  | atLeast
  | above
  | atMost
  | below
deriving DecidableEq

namespace Comparison

/-- The symbol of a comparison. -/
def symbol : Comparison → Text
  | .atLeast => ">="
  | .above => ">"
  | .atMost => "<="
  | .below => "<"

/-- The comparisons, those with the longer symbols before those they begin with. -/
def all : List Comparison := [.atLeast, .above, .atMost, .below]

/-- **The comparison a text opens with**, and the operand behind its symbol. -/
def split? (t : Text) : Option (Comparison × Text) :=
  all.findSome? fun c => (t.after? c.symbol).map (c, ·)

/-- Whether a comparison holds of the way the present value compares with the operand. -/
def holds : Comparison → Ordering → Bool
  | .atLeast, o => o != .lt
  | .above, o => o == .gt
  | .atMost, o => o != .gt
  | .below, o => o == .lt

end Comparison

/-- Why a rule cannot be read. -/
inductive RuleDefect where
  | notInteger (operand : Text)
  | notVersion (operand : Text)
  | notTwoBounds
deriving DecidableEq

/-- The wording of a defect. -/
def RuleDefect.message : RuleDefect → Text
  | .notInteger operand => "'" ++ operand ++ "' is not an integer"
  | .notVersion operand => "'" ++ operand ++ "' is not a version"
  | .notTwoBounds => "range must have exactly two bounds"

/-- **A rule that cannot be read**, as it was written. -/
structure RuleFault where
  rule : Text
  defect : RuleDefect
deriving DecidableEq

/-- The wording of a fault, from the rule and the reason. -/
def RuleFault.wording (rule reason : Text) : Text :=
  "Cannot parse rule '" ++ rule ++ "': " ++ reason

/-- The wording of a fault. -/
def RuleFault.message (f : RuleFault) : Text := wording f.rule f.defect.message

/-- Why a rule gives no answer: it cannot be read, or one of its numerals has too many digits. -/
inductive RuleFailure where
  | unreadable (fault : RuleFault)
  | overlong (o : Overlong)
deriving DecidableEq

/-- **The outcome of evaluating rules**: the faults met on the way, and the answer. -/
structure Verdict where
  faults : List RuleFault
  answer : Except Overlong Bool

namespace Verdict

/-- **An unreadable rule does not match**; a numeral of too many digits leaves no answer. -/
def ofMatch : Except RuleFailure Bool → Verdict
  | .ok b => ⟨[], .ok b⟩
  | .error (.unreadable fault) => ⟨[fault], .ok false⟩
  | .error (.overlong o) => ⟨[], .error o⟩

/-- Evaluation stops at the first rule that matches or leaves no answer. -/
def firstMatch {α : Type} (evaluate : Text → α → Verdict) (present : α) : List Text → Verdict
  | [] => ⟨[], .ok false⟩
  | rule :: rules =>
    match evaluate rule present with
    | ⟨faults, .ok false⟩ =>
      let rest := firstMatch evaluate present rules
      ⟨faults ++ rest.faults, rest.answer⟩
    | verdict => verdict

/-- **Some rule matches, or there is none.** -/
def any {α : Type} (evaluate : Text → α → Verdict) (rules : List Text) (present : α) : Verdict :=
  if rules.isEmpty then ⟨[], .ok true⟩ else firstMatch evaluate present rules

end Verdict

end FeatureFlags

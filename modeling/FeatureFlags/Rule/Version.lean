import FeatureFlags.Rule.Basic
import FeatureFlags.Version

/-!
# Rule/Version — rules on the application version

Rules and versions are compared trimmed and in small letters.  A comparison and a range speak of the
order of versions; any other rule is a literal and matches itself only.  A rule is a range when both
halves around its first hyphen are versions, so a version whose tag is a version reads as a range.
-/

namespace FeatureFlags

/-- **A version rule.** -/
inductive VersionRule where
  | comparison (c : Comparison) (operand : Text)
  | range (least greatest : Text)
  | literal (text : Text)
deriving DecidableEq

namespace VersionRule

/-- A text that has to be a version, for the sake of a rule. -/
def require (rule text : Text) : Except RuleFailure Unit :=
  if Version.isVersion text then .ok () else .error (.unreadable ⟨rule, .notVersion text⟩)

/-- The two halves around the first hyphen, trimmed, when both are versions. -/
def bounds? (condition : Text) : Option (Text × Text) :=
  match condition.cut? (.scalar '-') with
  | none => none
  | some (low, high) =>
    if Version.isVersion low.trim ∧ Version.isVersion high.trim then some (low.trim, high.trim)
    else none

/-- **Reading a rule.** -/
def parse (rule : Text) : Except RuleFailure VersionRule :=
  let condition := Version.normalize rule
  match Comparison.split? condition with
  | some (c, rest) => do
    require rule rest.trim
    return .comparison c rest.trim
  | none =>
    match bounds? condition with
    | some (low, high) => .ok (.range low high)
    | none => .ok (.literal condition)

/-- **Whether a rule admits a version**, given in normal form.  A comparison and a range ask for a
well-formed version; `rule` is the text that a fault shows. -/
def admits (rule : Text) (present : Text) : VersionRule → Except RuleFailure Bool
  | .comparison c operand => do
    require rule present
    return c.holds (Version.compareTexts present operand)
  | .range low high => do
    require rule present
    return Version.compareTexts present low != .lt && Version.compareTexts present high != .gt
  | .literal text => .ok (present = text)

/-- Whether a rule as written accepts a version. -/
def accepts (rule version : Text) : Except RuleFailure Bool :=
  parse rule >>= admits rule (Version.normalize version)

/-- **Evaluating a rule**: a rule that cannot be read does not match. -/
def evaluate (rule version : Text) : Verdict := .ofMatch (accepts rule version)

/-- **Evaluating a list of rules.** -/
def evaluateAny (rules : List Text) (version : Text) : Verdict := .any evaluate rules version

end VersionRule

end FeatureFlags

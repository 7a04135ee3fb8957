import FeatureFlags.Rule.Level
import FeatureFlags.Rule.Version
import FeatureFlags.Switchboard.Delivery

/-!
# Switchboard/Eligibility — whether the host may use a flag

A flag may be used if one of its level rules matches the level of the host and one of its version
rules the version; a flag without rules, or a name without a flag, restricts nothing.  Every rule
that cannot be read leaves a warning.
-/

namespace FeatureFlags

namespace Switchboard

/-- **The conclusion of an evaluation**: its faults become warnings. -/
def conclude (kind : Text) (v : Verdict) : Action Bool := do
  v.faults.forM fun fault =>
    note .warning ("Failed to evaluate " ++ kind ++ " rule: " ++ fault.message)
  match v.answer with
  | .ok b => return b
  | .error o => throw (.overlong o)

/-- **Whether the level rules of a name admit a level.** -/
def supportsLevel (topic : Text) (level : Int) : Action Bool := do
  conclude "level" (LevelRule.evaluateAny ((← get).roster.levelRules topic) level)

/-- **Whether the version rules of a name admit a version.** -/
def supportsVersion (topic version : Text) : Action Bool := do
  conclude "version" (VersionRule.evaluateAny ((← get).roster.versionRules topic) version)

/-- What can be said of a flag's eligibility: nothing where there is no level or no version. -/
structure Eligibility where
  level : Option Bool
  version : Option Bool
deriving DecidableEq

/-- Whether something is supported, if there is something to ask about. -/
def ifGiven {α : Type} (asked : Option α) (supported : α → Action Bool) : Action (Option Bool) := do
  match asked with
  | none => return none
  | some a => return some (← supported a)

/-- **The eligibility of a name** for a level and a version. -/
def eligibility (topic : Text) (level : Option Int) (version : Option Text) :
    Action Eligibility := do
  let levelSupported ← ifGiven level (supportsLevel topic)
  let versionSupported ← ifGiven version (supportsVersion topic)
  return ⟨levelSupported, versionSupported⟩

/-- Whether both do; the version counts only if the level is admitted. -/
def supports (topic : Text) (level : Int) (version : Text) : Action Bool := do
  if ← supportsLevel topic level then supportsVersion topic version else return false

end Switchboard

end FeatureFlags

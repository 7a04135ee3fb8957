import FeatureFlags.Json.Basic
import FeatureFlags.Text.Blank

/-!
# Flag/Basic — feature flags and their conditions

A flag is a name that is on or off, together with the condition under which the host may use it: one
list of rules for the platform level and one for the application version.  An empty list restricts
nothing.
-/

namespace FeatureFlags

/-- **A condition**: the level rules and the version rules, as they were written. -/
structure Condition where
  levels : List Text
  versions : List Text
deriving DecidableEq

namespace Condition

/-- The condition that restricts nothing. -/
def unrestricted : Condition := ⟨[], []⟩

/-- A condition as a document. -/
def toJson (c : Condition) : Json :=
  .obj [("supported_levels", .texts c.levels), ("supported_versions", .texts c.versions)]

end Condition

/-- **A flag.** -/
structure Flag where
  name : Text
  enabled : Bool
  condition : Condition
deriving DecidableEq

namespace Flag

/-- A name must hold more than blanks. -/
def validName (name : Text) : Bool := !name.isBlank

/-- A flag as a document. -/
def toJson (f : Flag) : Json :=
  .obj [("name", .str f.name), ("enabled", .bool f.enabled), ("condition", f.condition.toJson)]

end Flag

end FeatureFlags

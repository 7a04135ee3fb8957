import FeatureFlags.Settings

/-!
# Panel/Label — what a panel is known by

A panel has a title and a version, the name and the version of the application.  There is no panel
without them.
-/

namespace FeatureFlags

namespace Panel

/-- **What a panel is known by.** -/
inductive Label where
  | title
  | version
deriving DecidableEq

namespace Label

/-- The wording for a label that is missing. -/
def message : Label → Text
  | .title => "A title must be provided for OpenAPI, e.g.: 'My API'"
  | .version => "A version must be provided for OpenAPI, e.g.: '2.1.0'"

/-- **The label that settings leave empty**, the first of them if there are two. -/
def missing? (settings : Settings) : Option Label :=
  if settings.appName.isEmpty then some .title
  else if settings.appVersion.isEmpty then some .version
  else none

end Label

end Panel

end FeatureFlags

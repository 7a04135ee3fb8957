import FeatureFlags.Flag.Basic
import FeatureFlags.Reading

/-!
# Flag/Decoding — flags from JSON values

A flag is an object with a name, a truth value and an optional condition; a condition is an object
with two optional lists of rules.  Other fields are ignored.  A name of blanks is refused, and any
other name is kept as it stands, blanks around it included.

What is reported for a value that should be an object and is none depends on where the data comes
from, so it is a parameter.
-/

namespace FeatureFlags

namespace Reading

/-- The fields of an object. -/
def object (notObject : IssueKind) : Json → Checked (List (Text × Json))
  | .obj fields => .ok fields
  | _ => .fail notObject

/-- A field that has to be there. -/
def required {α : Type} (name : Text) (read : Json → Checked α) (fields : List (Text × Json)) :
    Checked α :=
  .within (.field name) (((Json.lookup? name fields).map read).getD (.fail .missing))

/-- A field that may be left out. -/
def defaulted {α : Type} (name : Text) (read : Json → Checked α) (absent : α)
    (fields : List (Text × Json)) : Checked α :=
  .within (.field name) (((Json.lookup? name fields).map read).getD (.ok absent))

end Reading

namespace Condition

/-- **A condition from a JSON value.** -/
def decode (notObject : IssueKind) (v : Json) : Checked Condition := do
  let fields ← Reading.object notObject v
  (Checked.both (Reading.defaulted "supported_levels" Reading.strings [] fields)
    (Reading.defaulted "supported_versions" Reading.strings [] fields)).map fun (l, v) => ⟨l, v⟩

end Condition

namespace Flag

/-- A name from a JSON value. -/
def decodeName (v : Json) : Checked Text := do
  let name ← Reading.string v
  if validName name then .ok name else .fail (.rejected .blankName)

/-- **A flag from a JSON value.** -/
def decode (notObject : IssueKind) (v : Json) : Checked Flag := do
  let fields ← Reading.object notObject v
  (Checked.both (Reading.required "name" decodeName fields)
    (Checked.both (Reading.required "enabled" Reading.truth fields)
      (Reading.defaulted "condition" (Condition.decode notObject) .unrestricted fields))).map
    fun (name, enabled, condition) => ⟨name, enabled, condition⟩

/-- **A list of flags from a JSON value.** -/
def decodeList : Json → Checked (List Flag)
  | .arr vs => Checked.items (decode .modelType) vs
  | _ => .fail .listType

/-- A valid name is what decoding asks for. -/
theorem validName_of_decodeName {v : Json} {name : Text} (h : decodeName v = .ok name) :
    validName name = true := by
  cases v with
  | str t =>
    simp only [decodeName, Reading.string, bind, Except.bind] at h
    split at h
    · rename_i hv
      cases h
      exact hv
    · simp [Checked.fail] at h
  | _ => simp [decodeName, Reading.string, Checked.fail, bind, Except.bind] at h

end Flag

end FeatureFlags

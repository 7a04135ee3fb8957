import FeatureFlags.Number.Binary64
import FeatureFlags.Text.CodePoint

/-!
# Json/Basic — JSON values

A value keeps what a document shows: whole numbers and binary fractions apart, the order of the
fields, and strings that may hold unpaired surrogates.  A field name occurs once; a later occurrence
in a document overwrites the value in the earlier one's place.
-/

namespace FeatureFlags

/-- **A JSON value.** -/
inductive Json where
  | null
  | bool (b : Bool)
  | int (n : Int)
  | float (x : Binary64)
  | str (t : Text)
  | arr (items : List Json)
  | obj (fields : List (Text × Json))

namespace Json

instance : Inhabited Json := ⟨.null⟩

/-- The value of a name in a list of fields. -/
def lookup? (name : Text) : List (Text × Json) → Option Json
  | [] => none
  | (key, v) :: fields => if key = name then some v else lookup? name fields

/-- **Writing a field**: in the place of the field of that name, or behind all others. -/
def setField (name : Text) (v : Json) : List (Text × Json) → List (Text × Json)
  | [] => [(name, v)]
  | (key, w) :: fields =>
    if key = name then (key, v) :: fields else (key, w) :: setField name v fields

/-- The value written to a field is found there. -/
theorem lookup?_setField_self (name : Text) (v : Json) (fields : List (Text × Json)) :
    lookup? name (setField name v fields) = some v := by
  induction fields with
  | nil => simp [setField, lookup?]
  | cons f fields ih =>
    by_cases h : f.1 = name
    · simp [setField, lookup?, h]
    · simp [setField, lookup?, h, ih]

/-- The value of a field of an object; nothing else has fields. -/
def field? (name : Text) : Json → Option Json
  | .obj fields => lookup? name fields
  | _ => none

/-- An item of an array; nothing else has items. -/
def item? (i : Nat) : Json → Option Json
  | .arr items => items[i]?
  | _ => none

/-- Whether a value counts as nothing: null, false, zero, and what is empty. -/
def isNothing : Json → Bool
  | .null => true
  | .bool b => !b
  | .int n => n == 0
  | .float x => x.integer? == some 0
  | .str t => t.isEmpty
  | .arr items => items.isEmpty
  | .obj fields => fields.isEmpty

/-- A list of texts as an array of strings. -/
def texts (ts : List Text) : Json := .arr (ts.map .str)

/-- A value that may be absent; absence is null. -/
def ofOption {α : Type} (f : α → Json) : Option α → Json
  | none => .null
  | some a => f a

end Json

end FeatureFlags

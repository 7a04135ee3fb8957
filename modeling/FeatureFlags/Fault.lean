import FeatureFlags.Reading
import FeatureFlags.Rule.Basic
import FeatureFlags.Text.Quoted

/-!
# Fault — the faults shown to those who use the library

A fault has a code, a message, details and the status with which a request that meets it is
answered.  A miss within the library is no fault: a name without a flag is off, and a rule that
cannot be read does not match.
-/

namespace FeatureFlags

/-- The codes of the faults. -/
inductive FaultCode where
  | featureNotFound
  | featureInvalidData
  | cacheLoadFailed
  | ruleParseFailed
  | internalError
deriving DecidableEq

namespace FaultCode

/-- All codes. -/
def all : List FaultCode :=
  [.featureNotFound, .featureInvalidData, .cacheLoadFailed, .ruleParseFailed, .internalError]

/-- The name of a code. -/
def name : FaultCode → Text
  | .featureNotFound => "FEATURE_NOT_FOUND"
  | .featureInvalidData => "FEATURE_INVALID_DATA"
  | .cacheLoadFailed => "CACHE_LOAD_FAILED"
  | .ruleParseFailed => "RULE_PARSE_FAILED"
  | .internalError => "INTERNAL_ERROR"

/-- **The code of a name.** -/
def ofName? (t : Text) : Option FaultCode := all.find? (·.name = t)

/-- A name is read back as its code. -/
theorem ofName?_name (c : FaultCode) : ofName? c.name = some c := by
  cases c <;> decide

/-- The wording for a name that is no code. -/
def unknownMessage (t : Text) : Text := t.quoted ++ " is not a valid ErrorCode"

/-- A code by its name as it is given. -/
def read : Json → Checked FaultCode
  | .str t => (ofName? t).elim (.fail .faultCode) .ok
  | _ => .fail .faultCode

end FaultCode

/-- **A fault.** -/
inductive Fault where
  | notFound (name : Text)
  | invalid (name reason : Text)
  | unloadable (path reason : Text)
  | unreadableRule (rule reason : Text)
  | general (message : Text) (code : FaultCode) (details : List (Text × Json)) (status : Int)

namespace Fault

/-- The wording of a fault. -/
def message : Fault → Text
  | .notFound name => "Feature '" ++ name ++ "' not found"
  | .invalid name reason => "Invalid definition for feature '" ++ name ++ "': " ++ reason
  | .unloadable path reason => "Failed to load cached features from " ++ path ++ ": " ++ reason
  | .unreadableRule rule reason => RuleFault.wording rule reason
  | .general message _ _ _ => message

/-- The code of a fault. -/
def code : Fault → FaultCode
  | .notFound _ => .featureNotFound
  | .invalid _ _ => .featureInvalidData
  | .unloadable _ _ => .cacheLoadFailed
  | .unreadableRule _ _ => .ruleParseFailed
  | .general _ code _ _ => code

/-- The details of a fault. -/
def details : Fault → List (Text × Json)
  | .notFound name => [("name", .str name)]
  | .invalid name reason => [("name", .str name), ("reason", .str reason)]
  | .unloadable path reason => [("path", .str path), ("reason", .str reason)]
  | .unreadableRule rule reason => [("rule", .str rule), ("reason", .str reason)]
  | .general _ _ details _ => details

/-- The status with which a request is answered. -/
def status : Fault → Int
  | .notFound _ => 404
  | .invalid _ _ => 422
  | .unloadable _ _ => 500
  | .unreadableRule _ _ => 422
  | .general _ _ _ status => status

/-- Details as they are given: fields, or what counts as nothing. -/
def readDetails : Json → Checked (List (Text × Json))
  | .obj fields => .ok fields
  | v => if v.isNothing then .ok [] else .fail .dictType

/-- **A general fault** from its parts as they are given. -/
def ofParts (code message details : Json) (status : Int) : Checked Fault :=
  (Checked.both (.within (.field "error_code") (FaultCode.read code))
    (Checked.both (.within (.field "message") (Reading.string message))
      (.within (.field "details") (readDetails details)))).map
    fun (code, message, details) => .general message code details status

/-- A fault as a document; empty details are null. -/
def toJson (f : Fault) : Json :=
  .obj [("error_code", .str f.code.name), ("message", .str f.message),
    ("details", if f.details.isEmpty then .null else .obj f.details)]

end Fault

end FeatureFlags

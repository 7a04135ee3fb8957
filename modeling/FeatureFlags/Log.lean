import FeatureFlags.Text.CodePoint

/-!
# Log — what is recorded while the library works

Every part of the library may leave records.  A record has a severity and a message; how records are
shown, and which are, is decided elsewhere.
-/

namespace FeatureFlags

/-- **The severities**, from the least to the greatest. -/
inductive Severity where
  | debug
  | info
  | warning
  | error
  | critical
deriving DecidableEq

namespace Severity

/-- All severities. -/
def all : List Severity := [.debug, .info, .warning, .error, .critical]

/-- The name of a severity. -/
def name : Severity → Text
  | .debug => "DEBUG"
  | .info => "INFO"
  | .warning => "WARNING"
  | .error => "ERROR"
  | .critical => "CRITICAL"

/-- The weight of a severity; records below a chosen weight may be left out. -/
def weight : Severity → Nat
  | .debug => 10
  | .info => 20
  | .warning => 30
  | .error => 40
  | .critical => 50

/-- **The severity of a name.** -/
def ofName? (t : Text) : Option Severity := all.find? (·.name = t)

/-- A name is read back as its severity. -/
theorem ofName?_name (s : Severity) : ofName? s.name = some s := by
  cases s <;> decide

end Severity

/-- **A record.** -/
structure Record where
  severity : Severity
  message : Text
deriving DecidableEq

namespace Record

/-- A text within a message, between apostrophes as it stands. -/
def named (t : Text) : Text := "'" ++ t ++ "'"

/-- A truth value within a message. -/
def truth (b : Bool) : Text := if b then "True" else "False"

end Record

end FeatureFlags

import FeatureFlags.Text.CodePoint

/-!
# Issue — what is wrong with data, and where

Checking data reports every issue it finds, in the order of the fields and of the items.  An issue
has a kind and the place in the data at which it lies.
-/

namespace FeatureFlags

/-- A step from a value into it. -/
inductive Segment where
  | field (name : Text)
  | index (i : Nat)
deriving DecidableEq

/-- A value of the right form that is refused all the same. -/
inductive Rejection where
  | blankName
  | logLevel (value : Text)
  | negativePlatformLevel
  | pollInterval
deriving DecidableEq

/-- The wording of a rejection. -/
def Rejection.message : Rejection → Text
  | .blankName => "Value error, name must be a non-empty string"
  | .logLevel value =>
    "Value error, log_level '" ++ value
      ++ "' not valid. Must be one of: DEBUG, INFO, WARNING, ERROR, CRITICAL"
  | .negativePlatformLevel => "Value error, platform_level must be zero or greater"
  | .pollInterval => "Value error, stream_poll_interval must be greater than zero"

/-- **The kinds of issues.** -/
inductive IssueKind where
  | missing
  | stringType
  | stringUnicode
  | boolType
  | boolParsing
  | listType
  | dictType
  | faultCode
  | modelType
  | modelAttributesType
  | intType
  | intParsing
  | intParsingSize
  | intFromFloat
  | finiteNumber
  | floatType
  | floatParsing
  | pathType
  | greaterThanEqual
  | jsonInvalid
  | rejected (r : Rejection)
deriving DecidableEq

/-- The code of a kind. -/
def IssueKind.code : IssueKind → Text
  | .missing => "missing"
  | .stringType => "string_type"
  | .stringUnicode => "string_unicode"
  | .boolType => "bool_type"
  | .boolParsing => "bool_parsing"
  | .listType => "list_type"
  | .dictType => "dict_type"
  | .faultCode => "enum"
  | .modelType => "model_type"
  | .modelAttributesType => "model_attributes_type"
  | .intType => "int_type"
  | .intParsing => "int_parsing"
  | .intParsingSize => "int_parsing_size"
  | .intFromFloat => "int_from_float"
  | .finiteNumber => "finite_number"
  | .floatType => "float_type"
  | .floatParsing => "float_parsing"
  | .pathType => "path_type"
  | .greaterThanEqual => "greater_than_equal"
  | .jsonInvalid => "json_invalid"
  | .rejected _ => "value_error"

/-- What a kind of issue means, in words. -/
def IssueKind.message : IssueKind → Text
  | .missing => "Field required"
  | .stringType => "Input should be a valid string"
  | .stringUnicode =>
    "Input should be a valid string, unable to parse raw data as a unicode string"
  | .boolType => "Input should be a valid boolean"
  | .boolParsing => "Input should be a valid boolean, unable to interpret input"
  | .listType => "Input should be a valid list"
  | .dictType => "Input should be a valid dictionary"
  | .faultCode =>
    "Input should be 'FEATURE_NOT_FOUND', 'FEATURE_INVALID_DATA', 'CACHE_LOAD_FAILED', "
      ++ "'RULE_PARSE_FAILED' or 'INTERNAL_ERROR'"
  | .modelType => "Input should be a valid dictionary"
  | .modelAttributesType =>
    "Input should be a valid dictionary or object to extract fields from"
  | .intType => "Input should be a valid integer"
  | .intParsing => "Input should be a valid integer, unable to parse string as an integer"
  | .intParsingSize => "Unable to parse input string as an integer, exceeded maximum size"
  | .intFromFloat => "Input should be a valid integer, got a number with a fractional part"
  | .finiteNumber => "Input should be a finite number"
  | .floatType => "Input should be a valid number"
  | .floatParsing => "Input should be a valid number, unable to parse string as a number"
  | .pathType => "Input is not a valid path"
  | .greaterThanEqual => "Input should be greater than or equal to 0"
  | .jsonInvalid => "JSON decode error"
  | .rejected r => r.message

/-- **An issue**: its place, outermost step first, and its kind. -/
structure Issue where
  place : List Segment
  kind : IssueKind
deriving DecidableEq

/-- Checked data, or all that is wrong with it. -/
abbrev Checked (α : Type) := Except (List Issue) α

namespace Checked

/-- The one issue of a value as a whole. -/
def fail {α : Type} (kind : IssueKind) : Checked α := .error [⟨[], kind⟩]

/-- The issues of a part, seen from the whole. -/
def within {α : Type} (s : Segment) (c : Checked α) : Checked α :=
  c.mapError fun issues => issues.map fun i => ⟨s :: i.place, i.kind⟩

/-- **Two parts**, with the issues of the first before those of the second. -/
def both {α β : Type} : Checked α → Checked β → Checked (α × β)
  | .ok a, .ok b => .ok (a, b)
  | .error e, .ok _ => .error e
  | .ok _, .error f => .error f
  | .error e, .error f => .error (e ++ f)

/-- **All items**, with the issues in the order of the items; `i` is the index of the first one. -/
def itemsFrom {α β : Type} (check : α → Checked β) (i : Nat) : List α → Checked (List β)
  | [] => .ok []
  | a :: as =>
    (both (within (.index i) (check a)) (itemsFrom check (i + 1) as)).map fun (b, bs) => b :: bs

/-- All items, counted from zero. -/
def items {α β : Type} (check : α → Checked β) (as : List α) : Checked (List β) :=
  itemsFrom check 0 as

/-- The number of issues. -/
def count {α : Type} : Checked α → Nat
  | .ok _ => 0
  | .error issues => issues.length

end Checked

end FeatureFlags

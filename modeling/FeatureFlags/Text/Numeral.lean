import FeatureFlags.Text.Digit

/-!
# Text/Numeral — integers in decimal digits

An integer is written with the decimal digits of any script.  A numeral of more than `digitLimit`
digits is not converted, leading zeros counted; that is a failure of its own kind, apart from a
text that is no numeral.
-/

namespace FeatureFlags

/-- **A numeral of too many digits**, with their number. -/
structure Overlong where
  digits : Nat
deriving DecidableEq

namespace Overlong

/-- The wording of the failure. -/
def message (o : Overlong) : Text :=
  "Exceeds the limit (4300 digits) for integer string conversion: value has " ++ Text.ofNat o.digits
    ++ " digits; use sys.set_int_max_str_digits() to increase the limit"

end Overlong

namespace Numeral

/-- The greatest number of digits that is converted. -/
def digitLimit : Nat := 4300

/-- The number that digits denote, the most significant first. -/
def value (digits : List Nat) : Nat := digits.foldl (fun n d => 10 * n + d) 0

/-- **Conversion of digits**, as far as the limit allows. -/
def ofDigits (digits : List Nat) : Except Overlong Nat :=
  if digitLimit < digits.length then .error ⟨digits.length⟩ else .ok (value digits)

/-- The values of a text of decimal digits, if it is one and not empty. -/
def digits? (t : Text) : Option (List Nat) :=
  if t.isEmpty then none else t.mapM CodePoint.digit?

/-- An optional sign, and the rest. -/
def sign : Text → Bool × Text
  | .scalar '-' :: t => (true, t)
  | .scalar '+' :: t => (false, t)
  | t => (false, t)

/-- The integer of a sign and a natural number. -/
def signed (negative : Bool) (n : Nat) : Int := if negative then -n else n

/-- **An optional sign followed by digits only.**  The outer `none` is a text of another form. -/
def integer? (t : Text) : Option (Except Overlong Int) :=
  let (negative, rest) := sign t
  (digits? rest).map fun ds => (ofDigits ds).map (signed negative)

/-- Digits with single underscores between them. -/
def spacedDigits? : Text → Option (List Nat)
  | [] => none
  | [c] => c.digit?.map ([·])
  | c :: .scalar '_' :: t => do return (← c.digit?) :: (← spacedDigits? t)
  | c :: t => do return (← c.digit?) :: (← spacedDigits? t)

/-- **The generous form**: white space around an optional sign and digits, which single underscores
may separate. -/
def generous? (t : Text) : Option (Except Overlong Int) :=
  let (negative, rest) := sign t.trimSpace
  (spacedDigits? rest).map fun ds => (ofDigits ds).map (signed negative)

end Numeral

end FeatureFlags

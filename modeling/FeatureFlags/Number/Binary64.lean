/-!
# Number/Binary64 — binary floating-point numbers of 64 bits, exactly

A finite number is a natural significand times a power of two, with a sign.  Reading a number
rounds an exact ratio once, to the nearest representable value and to the even significand on a tie;
what lies beyond the greatest finite number becomes infinite.
-/

namespace FeatureFlags

/-- **A binary64 value.**  A finite one is `significand * 2 ^ exponent` with its sign; the rounding
functions give significands below `2 ^ 53`, at least `2 ^ 52` unless the exponent is the least. -/
inductive Binary64 where
  | nan
  | infinite (negative : Bool)
  | finite (negative : Bool) (significand : Nat) (exponent : Int)
deriving DecidableEq

namespace Binary64

/-- The least exponent. -/
def leastExponent : Int := -1074

/-- The greatest exponent. -/
def greatestExponent : Int := 971

/-- The least significand that uses all 53 binary digits, `2 ^ 52`. -/
def leastFull : Nat := 4503599627370496

/-- A power; with a negative exponent it is one. -/
def power (base : Nat) (exponent : Int) : Nat := Nat.pow base exponent.toNat

/-- Zero, with a sign. -/
def zero (negative : Bool) : Binary64 := .finite negative 0 leastExponent

/-- **The quotient rounded to the nearest natural number**, to the even one on a tie. -/
def roundDiv (num den : Nat) : Nat :=
  let q := num / den
  let twice := 2 * (num % den)
  if twice < den then q
  else if den < twice then q + 1
  else if q % 2 = 0 then q
  else q + 1

/-- The floor of the binary logarithm of a positive ratio. -/
def logRatio (num den : Nat) : Int :=
  let e : Int := (num.log2 : Int) - den.log2
  if den * power 2 e ≤ num * power 2 (-e) then e else e - 1

/-- A significand at an exponent; one beyond the greatest exponent is infinite. -/
def bounded (negative : Bool) (significand : Nat) (exponent : Int) : Binary64 :=
  if greatestExponent < exponent then .infinite negative else .finite negative significand exponent

/-- **The value nearest to a ratio.** -/
def ofRatio (negative : Bool) (num den : Nat) : Binary64 :=
  if num = 0 then zero negative
  else
    let e := max (logRatio num den - 52) leastExponent
    let m := roundDiv (num * power 2 (-e)) (den * power 2 e)
    if m = 2 * leastFull then bounded negative leastFull (e + 1) else bounded negative m e

/-- **The value nearest to a decimal** `coefficient * 10 ^ exponent`.  A decimal too great or too
small for any finite value is recognised by the place of its leading digit. -/
def ofDecimal (negative : Bool) (coefficient : Nat) (exponent : Int) : Binary64 :=
  if coefficient = 0 then zero negative
  else
    let place := exponent + (Nat.toDigits 10 coefficient).length
    if 310 < place then .infinite negative
    else if place < -330 then zero negative
    else ofRatio negative (coefficient * power 10 exponent) (power 10 (-exponent))

/-- **The value nearest to an integer**, unless it is too great for a finite value. -/
def ofInt? (n : Int) : Option Binary64 :=
  match ofRatio (n < 0) n.natAbs 1 with
  | .infinite _ => none
  | x => some x

/-- The integer that a value is, if it is one. -/
def integer? : Binary64 → Option Int
  | .finite negative m e =>
    let whole : Option Nat :=
      if 0 ≤ e then some (m * power 2 e)
      else if m % power 2 (-e) = 0 then some (m / power 2 (-e))
      else none
    whole.map fun n => if negative then -(n : Int) else n
  | _ => none

/-- Whether a value is neither infinite nor the not-a-number value. -/
def isFinite : Binary64 → Bool
  | .finite .. => true
  | _ => false

/-- **Zero or less.**  The not-a-number value is not. -/
def atMostZero : Binary64 → Bool
  | .nan => false
  | .infinite negative => negative
  | .finite negative m _ => negative || m = 0

end Binary64

end FeatureFlags

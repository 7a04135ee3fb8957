import FeatureFlags.Number.Binary64
import FeatureFlags.Text.CodePoint

/-!
# Number/Shortest — the shortest decimal that reads back

A finite value is written with the fewest digits that read back to it.  The decimals that read back
form an interval, halfway to the neighbour on either side; its ends belong to it exactly if the
significand is even.  For one digit, two digits and so on, the two decimals around the value are
tried; the first that lies in the interval is taken, the nearer of two, the even one on a tie.
-/

namespace FeatureFlags

namespace Binary64

/-- **A decimal**, `coefficient * 10 ^ exponent`. -/
structure Decimal where
  coefficient : Nat
  exponent : Int
deriving DecidableEq

/-- Comparison of `a * 10 ^ i` with `b * 2 ^ j`. -/
def compareScaled (a : Nat) (i : Int) (b : Nat) (j : Int) : Ordering :=
  compare (a * power 10 i * power 2 (-j)) (b * power 2 j * power 10 (-i))

/-- **Reading back**: a decimal lies in the interval of the values that round to
`significand * 2 ^ exponent`.  Below a power of two the neighbour is only half as far away. -/
def readsBack (significand : Nat) (exponent : Int) (d : Decimal) : Bool :=
  let narrow := significand = leastFull ∧ leastExponent < exponent
  let low := compareScaled d.coefficient d.exponent (4 * significand - if narrow then 1 else 2)
    (exponent - 2)
  let high := compareScaled d.coefficient d.exponent (4 * significand + 2) (exponent - 2)
  let closed := significand % 2 = 0
  (low = .gt ∨ (closed ∧ low = .eq)) ∧ (high = .lt ∨ (closed ∧ high = .eq))

/-- The least `k` with `significand * 2 ^ exponent < 10 ^ k`, for a positive value: the digits of
the value scaled up by `10 ^ 400`, which leaves no positive value below one. -/
def decimalPlace (significand : Nat) (exponent : Int) : Int :=
  let scaled := significand * power 10 400 * power 2 exponent / power 2 (-exponent)
  ((Nat.toDigits 10 scaled).length : Int) - 400

/-- The decimal of one grid that reads back, if one of the two around the value does. -/
def onGrid (significand : Nat) (exponent : Int) (grid : Int) : Option Decimal :=
  let num := significand * power 2 exponent * power 10 (-grid)
  let den := power 2 (-exponent) * power 10 grid
  let below : Decimal := ⟨num / den, grid⟩
  let above : Decimal := ⟨num / den + 1, grid⟩
  let nearest : Decimal := ⟨roundDiv num den, grid⟩
  match readsBack significand exponent below, readsBack significand exponent above with
  | true, true => some nearest
  | true, false => some below
  | false, true => some above
  | false, false => none

/-- The decimal without the trailing zeros of its coefficient; at most `fuel` of them go. -/
def Decimal.stripZeros : Nat → Decimal → Decimal
  | 0, d => d
  | fuel + 1, d =>
    if d.coefficient % 10 = 0 ∧ d.coefficient ≠ 0 then
      stripZeros fuel ⟨d.coefficient / 10, d.exponent + 1⟩
    else d

/-- **The shortest decimal that reads back** to a positive value. -/
def shortest (significand : Nat) (exponent : Int) : Decimal :=
  let place := decimalPlace significand exponent
  let found := (List.range 17).findSome? fun n =>
    onGrid significand exponent (place - (n + 1 : Nat))
  let exact : Decimal :=
    ⟨significand * power 2 exponent * power 5 (-exponent), min exponent 0⟩
  (found.getD exact).stripZeros 400

/-- **The layout of a decimal**: positional with at least one digit on either side of the point
while the leading digit stands between the fourth place after it and the sixteenth before it,
otherwise one digit, a fraction, and an exponent of at least two digits with its sign. -/
def Decimal.layout (d : Decimal) : List Char :=
  let digits := Nat.toDigits 10 d.coefficient
  let point : Int := digits.length + d.exponent
  if -4 < point ∧ point ≤ 16 then
    if point ≤ 0 then "0.".toList ++ List.replicate (-point).toNat '0' ++ digits
    else if digits.length ≤ point.toNat then
      digits ++ List.replicate (point.toNat - digits.length) '0' ++ ".0".toList
    else digits.take point.toNat ++ '.' :: digits.drop point.toNat
  else
    let fraction := digits.drop 1
    let exponent := Nat.toDigits 10 (point - 1).natAbs
    digits.take 1 ++ (if fraction.isEmpty then [] else '.' :: fraction) ++ ['e']
      ++ [if point - 1 < 0 then '-' else '+']
      ++ (if exponent.length < 2 then '0' :: exponent else exponent)

/-- **The text of a value.** -/
def toText : Binary64 → Text
  | .nan => "nan"
  | .infinite negative => if negative then "-inf" else "inf"
  | .finite negative m e =>
    let body := if m = 0 then "0.0".toList else (shortest m e).layout
    Text.ofChars (if negative then '-' :: body else body)

end Binary64

end FeatureFlags

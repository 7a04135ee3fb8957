import FeatureFlags.Issue
import FeatureFlags.Json.Basic
import FeatureFlags.Text.Blank
import FeatureFlags.Text.Numeral

/-!
# Reading — values of simple types from JSON values

A truth value may also be given as zero or one or as one of twelve words, a number as its text; a
string or a list must be one.  A text of a number may have white space around it and single
underscores between its digits; only ASCII digits count.  A string may hold lone surrogates, but a
word or a number may not.
-/

namespace FeatureFlags

namespace Reading

/-- The texts that read as false, in small letters. -/
def falseWords : List Text := ["0", "off", "f", "false", "n", "no"]

/-- The texts that read as true, in small letters. -/
def trueWords : List Text := ["1", "on", "t", "true", "y", "yes"]

/-- ASCII small letters. -/
def asciiLower (t : Text) : Text :=
  t.map fun c => if 0x41 ≤ c.toNat ∧ c.toNat ≤ 0x5A then CodePoint.ofNat (c.toNat + 32) else c

/-- **Reading a text that stands for another value**: one with a lone surrogate is not even a text
then. -/
def encoded {α : Type} (read : Text → Checked α) (t : Text) : Checked α :=
  if t.any CodePoint.isSurrogate then .fail .stringUnicode else read t

/-- The truth value of a word, in either case but without blanks around it. -/
def truthOfWord (t : Text) : Checked Bool :=
  if falseWords.contains (asciiLower t) then .ok false
  else if trueWords.contains (asciiLower t) then .ok true
  else .fail .boolParsing

/-- The least number too great for 64 bits with a sign, `2 ^ 63`. -/
def wordBound : Int := 9223372036854775808

/-- The truth value of a whole number. -/
def truthOfInt (n : Int) : Checked Bool :=
  if n = 0 then .ok false else if n = 1 then .ok true else .fail .boolParsing

/-- **A truth value.**  Other whole numbers within 64 bits are of the right type, and nothing else
is. -/
def truth : Json → Checked Bool
  | .bool b => .ok b
  | .str t => encoded truthOfWord t
  | .int n => if -wordBound ≤ n ∧ n < wordBound then truthOfInt n else .fail .boolType
  | .float x =>
    match x.integer? with
    | some n => if -wordBound < n ∧ n < wordBound then truthOfInt n else .fail .boolType
    | none => .fail .boolType
  | _ => .fail .boolType

/-- **A string.** -/
def string : Json → Checked Text
  | .str t => .ok t
  | _ => .fail .stringType

/-- **A list of strings.** -/
def strings : Json → Checked (List Text)
  | .arr vs => Checked.items string vs
  | _ => .fail .listType

/-- A value that may be null. -/
def optional {α : Type} (read : Json → Checked α) : Json → Checked (Option α)
  | .null => .ok none
  | v => (read v).map some

/-- An ASCII digit. -/
def isAsciiDigit (c : CodePoint) : Bool := c.asciiDigit?.isSome

/-- **An integer in its plain form**: an optional minus sign and digits without a leading zero.  Of
more than 4300 digits none is read, whatever follows them. -/
def plainInteger (t : Text) : Except IssueKind Int :=
  let (negative, body) : Bool × Text := match t with
    | .scalar '-' :: body => (true, body)
    | body => (false, body)
  let digits := body.takeWhile isAsciiDigit
  let finished := body.length = digits.length
  match digits.filterMap CodePoint.asciiDigit? with
  | [] => .error .intParsing
  | 0 :: more => if more.isEmpty ∧ finished then .ok 0 else .error .intParsing
  | values =>
    if Numeral.digitLimit < values.length then .error .intParsingSize
    else if finished then .ok (Numeral.signed negative (Numeral.value values))
    else .error .intParsing

/-- What is left behind leading zeros and underscores, of which the last was `last`; one character
is kept before a point and at the end.  A minus sign may stand behind them. -/
def dropZeros (last : CodePoint) : Text → Option Text
  | [] => some [last]
  | c :: t =>
    match c with
    | .scalar '0' => dropZeros c t
    | .scalar '_' => dropZeros c t
    | .scalar '.' => some (last :: c :: t)
    | _ => if isAsciiDigit c ∨ c = .scalar '-' then some (c :: t) else none

/-- Without the leading zeros of a number, which opens with a digit. -/
def dropLeadingZeros : Text → Option Text
  | [] => none
  | c :: t =>
    if c = .scalar '0' then dropZeros c t
    else if isAsciiDigit c then some (c :: t)
    else none

/-- Without a point and the zeros behind it, if there are some and nothing else follows it. -/
def dropZeroFraction (t : Text) : Text :=
  match t.cut? (.scalar '.') with
  | some (whole, zeros) => if ¬ zeros.isEmpty ∧ zeros.all (· = .scalar '0') then whole else t
  | none => t

/-- Whether two neighbours of a text are underscores. -/
def hasDoubleUnderscore : Text → Bool
  | a :: b :: t => (a = .scalar '_' ∧ b = .scalar '_') || hasDoubleUnderscore (b :: t)
  | _ => false

/-- **Without underscores**, if there are some and each stands alone and inside. -/
def dropUnderscores? (t : Text) : Option Text :=
  if t.head? = some (.scalar '_') ∨ t.getLast? = some (.scalar '_') ∨ hasDoubleUnderscore t then
    none
  else if t.contains (.scalar '_') then some (t.filter (· ≠ .scalar '_'))
  else none

/-- A number's text brought to the plain form: without white space, a plus sign, leading zeros, a
fraction of zeros and underscores. -/
def plainForm? (t : Text) : Option Text := do
  let shortened ← match t.trimSpace with
    | .scalar '+' :: rest => dropLeadingZeros rest
    | .scalar '-' :: rest => (dropLeadingZeros rest).map (.scalar '-' :: ·)
    | rest => dropLeadingZeros rest
  let digits := dropZeroFraction shortened
  return (dropUnderscores? digits).getD digits

/-- **An integer from its text**, in the plain form or brought to it; only a text in the plain form
is refused for its size. -/
def integerOfText (t : Text) : Except IssueKind Int :=
  match plainInteger t with
  | .error .intParsing =>
    (((plainForm? t).map plainInteger).bind Except.toOption).elim (.error .intParsing) .ok
  | result => result

/-- The issue of a value, as a whole. -/
def whole {α : Type} (r : Except IssueKind α) : Checked α := r.mapError fun kind => [⟨[], kind⟩]

/-- **An integer**: a whole number, a binary fraction that is one within 64 bits, a truth value or
a text. -/
def integer : Json → Checked Int
  | .int n => .ok n
  | .bool b => .ok (if b then 1 else 0)
  | .str t => encoded (whole ∘ integerOfText) t
  | .float x =>
    if x.isFinite then
      match x.integer? with
      | some n => if -wordBound < n ∧ n < wordBound then .ok n else .fail .intParsingSize
      | none => .fail .intFromFloat
    else .fail .finiteNumber
  | _ => .fail .intType

/-- A sign in front of a number. -/
def signOf : Text → Bool × Text
  | .scalar '-' :: t => (true, t)
  | .scalar '+' :: t => (false, t)
  | t => (false, t)

/-- An exponent: the letter, an optional sign and digits. -/
def exponent? : Text → Option Int
  | [] => some 0
  | c :: t =>
    if c = .scalar 'e' ∨ c = .scalar 'E' then
      let (negative, digits) := signOf t
      if digits.isEmpty then none
      else
        (digits.mapM CodePoint.asciiDigit?).map fun ds =>
          Numeral.signed negative (Numeral.value ds)
    else none

/-- Digits with a point before, among or behind them, and an optional exponent. -/
def decimal? (negative : Bool) (t : Text) : Option Binary64 := do
  let whole := t.takeWhile isAsciiDigit
  let rest := t.drop whole.length
  let (fraction, rest) : Text × Text := match rest with
    | .scalar '.' :: rest => (rest.takeWhile isAsciiDigit, rest.dropWhile isAsciiDigit)
    | rest => ([], rest)
  let digits ← (whole ++ fraction).mapM CodePoint.asciiDigit?
  if digits.isEmpty then none
  else
    let power ← exponent? rest
    return .ofDecimal negative (Numeral.value digits) (power - fraction.length)

/-- A binary fraction from a text without white space and underscores. -/
def plainFraction? (t : Text) : Option Binary64 :=
  let (negative, body) := signOf t
  let word := asciiLower body
  if word = "nan" then some .nan
  else if word = "inf" ∨ word = "infinity" then some (.infinite negative)
  else decimal? negative body

/-- **A binary fraction from its text**: white space may stand around it, or underscores in it. -/
def fractionOfText? (t : Text) : Option Binary64 :=
  plainFraction? t.trimSpace <|> (dropUnderscores? t).bind plainFraction?

/-- **A binary fraction**: a number that is none too great, a truth value or a text. -/
def fraction : Json → Checked Binary64
  | .float x => .ok x
  | .int n => (Binary64.ofInt? n).elim (.fail .floatType) .ok
  | .bool b => .ok (if b then .ofRatio false 1 1 else .zero false)
  | .str t => encoded (fun t => (fractionOfText? t).elim (.fail .floatParsing) .ok) t
  | _ => .fail .floatType

end Reading

end FeatureFlags

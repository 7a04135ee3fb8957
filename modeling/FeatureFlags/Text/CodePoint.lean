/-!
# Text/CodePoint — text as a sequence of code points

A flag's name and its rules are sequences of Unicode code points.  Nearly all of them are scalar
values, but an escape in a JSON document may leave an unpaired surrogate behind, and such a text is
kept as it was written rather than repaired.  Texts are compared by code point, never by byte or by
16-bit unit.
-/

namespace FeatureFlags

/-- **A code point**: a scalar value, or one of the 2048 surrogates counted from U+D800. -/
inductive CodePoint where
  | scalar (c : Char)
  | surrogate (index : Fin 2048)
deriving DecidableEq

namespace CodePoint

instance : Inhabited CodePoint := ⟨.scalar ' '⟩

instance : Coe Char CodePoint := ⟨.scalar⟩

/-- The number of a code point. -/
def toNat : CodePoint → Nat
  | .scalar c => c.toNat
  | .surrogate i => 0xD800 + i

/-- **The code point of a number**; a number beyond U+10FFFF gives U+0000. -/
def ofNat (n : Nat) : CodePoint :=
  if h : 0xD800 ≤ n ∧ n < 0xE000 then .surrogate ⟨n - 0xD800, by omega⟩ else .scalar (Char.ofNat n)

/-- Code points are ordered by their numbers. -/
instance : Ord CodePoint := ⟨fun a b => compare a.toNat b.toNat⟩

/-- The surrogates are the code points no encoded text may hold. -/
def isSurrogate : CodePoint → Bool
  | .scalar _ => false
  | .surrogate _ => true

end CodePoint

/-- **A text**: a finite sequence of code points. -/
abbrev Text := List CodePoint

namespace Text

/-- The text of a string of scalar values. -/
def ofChars (cs : List Char) : Text := cs.map .scalar

/-- The text of a string of scalar values. -/
def ofString (s : String) : Text := ofChars s.toList

instance : Coe String Text := ⟨ofString⟩

/-- **The characters of a text**, when no surrogate stands in it. -/
def chars? : Text → Option (List Char)
  | [] => some []
  | .scalar c :: t => (chars? t).map (c :: ·)
  | .surrogate _ :: _ => none

/-- The string of a text, when no surrogate stands in it. -/
def string? (t : Text) : Option String := t.chars?.map String.ofList

/-- **The characters of a text read back**: turning characters into a text loses nothing. -/
theorem chars?_ofChars (cs : List Char) : chars? (ofChars cs) = some cs := by
  induction cs with
  | nil => rfl
  | cons c cs ih => simpa [ofChars, chars?] using ih

/-- The characters of a text are those that make it. -/
theorem chars?_eq_some_iff {t : Text} {cs : List Char} : t.chars? = some cs ↔ t = ofChars cs := by
  constructor
  · intro h
    fun_induction chars? t generalizing cs with
    | case1 => cases h; rfl
    | case2 c t ih =>
      obtain ⟨ds, hds, rfl⟩ := Option.map_eq_some_iff.1 h
      rw [ih hds]
      rfl
    | case3 => cases h
  · rintro rfl
    exact chars?_ofChars cs

/-- **Pairing**: a high surrogate directly before a low one becomes the character they encode. -/
def pairSurrogates : Text → Text
  | .surrogate high :: .surrogate low :: t =>
    if high < 0x400 ∧ 0x400 ≤ low then
      CodePoint.ofNat (0x10000 + high * 0x400 + (low - 0x400)) :: pairSurrogates t
    else .surrogate high :: pairSurrogates (.surrogate low :: t)
  | c :: t => c :: pairSurrogates t
  | [] => []

/-- What is left of a text after a leading piece, if the text starts with it. -/
def after? : Text → Text → Option Text
  | t, [] => some t
  | [], _ :: _ => none
  | c :: cs, p :: ps => if p = c then after? cs ps else none

/-- **The pieces between the occurrences of a separator**; there is always at least one. -/
def splitOn (separator : CodePoint) : Text → List Text
  | [] => [[]]
  | c :: t =>
    if c = separator then [] :: splitOn separator t
    else match splitOn separator t with
      | [] => [[c]]
      | piece :: pieces => (c :: piece) :: pieces

/-- **The two halves around the first occurrence of a separator**, if there is one. -/
def cut? (separator : CodePoint) : Text → Option (Text × Text)
  | [] => none
  | c :: t =>
    if c = separator then some ([], t)
    else (cut? separator t).map fun (left, right) => (c :: left, right)

/-- The pieces, in order, with the separator between neighbours. -/
def join (separator : Text) : List Text → Text
  | [] => []
  | [t] => t
  | t :: ts => t ++ separator ++ join separator ts

/-- A natural number in decimal digits. -/
def ofNat (n : Nat) : Text := ofChars (Nat.toDigits 10 n)

/-- An integer in decimal digits, with a sign if it is negative. -/
def ofInt : Int → Text
  | .ofNat n => ofNat n
  | .negSucc n => .scalar '-' :: ofNat (n + 1)

/-- The digit of a number below sixteen. -/
def hexDigit (n : Nat) : Char := Char.ofNat (if n < 10 then 48 + n else 87 + n)

/-- The last digits of a number in base sixteen, as many as asked for. -/
def hexDigits : Nat → Nat → List Char
  | 0, _ => []
  | width + 1, n => hexDigits width (n / 16) ++ [hexDigit (n % 16)]

end Text

end FeatureFlags

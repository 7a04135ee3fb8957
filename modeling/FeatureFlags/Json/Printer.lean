import FeatureFlags.Json.Basic
import FeatureFlags.Number.Shortest

/-!
# Json/Printer — writing JSON values on one line

A value is written in ASCII on one line, with a space behind each comma and colon.  Within a string
the quote, the backslash and five control characters are escaped by a letter, every other code point
outside U+0020 to U+007E by four hexadecimal digits, those beyond U+FFFF as a pair of surrogates.
-/

namespace FeatureFlags

namespace Json

/-- The four-digit escape of a 16-bit unit. -/
def unitEscape (n : Nat) : List Char := '\\' :: 'u' :: Text.hexDigits 4 n

/-- The escape of a code point by its 16-bit units. -/
def numberEscape (n : Nat) : List Char :=
  if n < 0x10000 then unitEscape n
  else unitEscape (0xD800 + (n - 0x10000) / 0x400) ++ unitEscape (0xDC00 + (n - 0x10000) % 0x400)

/-- **One code point within a string.** -/
def escapePoint : CodePoint → List Char
  | .scalar '"' => ['\\', '"']
  | .scalar '\\' => ['\\', '\\']
  | .scalar '\n' => ['\\', 'n']
  | .scalar '\r' => ['\\', 'r']
  | .scalar '\t' => ['\\', 't']
  | .scalar '\x08' => ['\\', 'b']
  | .scalar '\x0c' => ['\\', 'f']
  | .scalar c => if 0x20 ≤ c.toNat ∧ c.toNat < 0x7F then [c] else numberEscape c.toNat
  | .surrogate i => numberEscape (0xD800 + i)

/-- **A string.** -/
def renderText (t : Text) : List Char := '"' :: t.flatMap escapePoint ++ ['"']

/-- An integer in decimal digits. -/
def renderInt : Int → List Char
  | .ofNat n => Nat.toDigits 10 n
  | .negSucc n => '-' :: Nat.toDigits 10 (n + 1)

/-- A binary fraction; the three values without digits are constants. -/
def renderFloat : Binary64 → List Char
  | .nan => "NaN".toList
  | .infinite negative => if negative then "-Infinity".toList else "Infinity".toList
  | .finite negative m e =>
    let body := if m = 0 then "0.0".toList else (Binary64.shortest m e).layout
    if negative then '-' :: body else body

mutual

/-- **A value.** -/
def render : Json → List Char
  | .null => "null".toList
  | .bool b => if b then "true".toList else "false".toList
  | .int n => renderInt n
  | .float x => renderFloat x
  | .str t => renderText t
  | .arr vs => '[' :: renderItems vs ++ [']']
  | .obj fields => '\x7b' :: renderFields fields ++ ['\x7d']

/-- Items, with commas between them. -/
def renderItems : List Json → List Char
  | [] => []
  | [v] => render v
  | v :: w :: vs => render v ++ ',' :: ' ' :: renderItems (w :: vs)

/-- Fields, with commas between them. -/
def renderFields : List (Text × Json) → List Char
  | [] => []
  | [(name, v)] => renderText name ++ ':' :: ' ' :: render v
  | (name, v) :: f :: fields =>
    renderText name ++ ':' :: ' ' :: render v ++ ',' :: ' ' :: renderFields (f :: fields)

end

end Json

end FeatureFlags

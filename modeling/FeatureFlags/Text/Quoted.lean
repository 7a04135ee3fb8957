import FeatureFlags.Text.Printable

/-!
# Text/Quoted — texts shown between quotes

A quoted text shows every code point unambiguously.  It stands between apostrophes, or between
double quotes if it holds an apostrophe and no double quote; the quote in use and the backslash are
escaped by a backslash, line feed, carriage return and tab by a letter, and whatever is not
printable by its number in two, four or eight hexadecimal digits.
-/

namespace FeatureFlags

namespace Text

/-- The number of a code point, in the shortest of the three hexadecimal escapes. -/
def numberEscape (n : Nat) : Text :=
  ofChars <|
    if n < 0x100 then '\\' :: 'x' :: hexDigits 2 n
    else if n < 0x10000 then '\\' :: 'u' :: hexDigits 4 n
    else '\\' :: 'U' :: hexDigits 8 n

/-- One code point between quotes. -/
def quotedPoint (quote c : CodePoint) : Text :=
  if c = quote ∨ c = .scalar '\\' then [.scalar '\\', c]
  else match c with
    | .scalar '\t' => "\\t"
    | .scalar '\n' => "\\n"
    | .scalar '\r' => "\\r"
    | _ => if c.isPrintable then [c] else numberEscape c.toNat

/-- **A text between quotes.** -/
def quoted (t : Text) : Text :=
  let quote : CodePoint :=
    .scalar (if t.contains (.scalar '\'') ∧ ¬ t.contains (.scalar '"') then '"' else '\'')
  quote :: t.flatMap (quotedPoint quote) ++ [quote]

/-- **A list of texts**: each between quotes, with commas between them, in square brackets. -/
def quotedList (ts : List Text) : Text := "[" ++ join ", " (ts.map quoted) ++ "]"

/-- A long text with its middle left out: of more than fifty code points, the first twenty-five and
the last twenty-four remain. -/
def abridged (t : Text) : Text :=
  if t.length ≤ 50 then t else t.take 25 ++ "..." ++ t.drop (t.length - 24)

end Text

end FeatureFlags

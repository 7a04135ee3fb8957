import FeatureFlags.Text.CodePoint
import FeatureFlags.Text.Range

/-!
# Text/Blank — blank code points and trimming

Two classes of blanks are in use.  The property of white space is what surrounds a number; trimming
a rule, a version or a name takes the four information separators U+001C to U+001F away as well.
Neither holds the zero-width space U+200B or the byte order mark U+FEFF.
-/

namespace FeatureFlags

namespace CodePoint

/-- The white space of Unicode 14.0. -/
def whiteSpaceRanges : List (Nat × Nat) :=
  [(0x9, 0xD), (0x20, 0x20), (0x85, 0x85), (0xA0, 0xA0), (0x1680, 0x1680), (0x2000, 0x200A),
   (0x2028, 0x2029), (0x202F, 0x202F), (0x205F, 0x205F), (0x3000, 0x3000)]

/-- **White space**: the blanks that may stand around a number. -/
def isWhiteSpace (c : CodePoint) : Bool := Range.mem whiteSpaceRanges c.toNat

/-- **Blank**: white space or an information separator. -/
def isBlank (c : CodePoint) : Bool := c.isWhiteSpace || (0x1C ≤ c.toNat && c.toNat ≤ 0x1F)

end CodePoint

namespace Text

/-- The text without the leading and trailing code points of a class. -/
def dropAround (p : CodePoint → Bool) (t : Text) : Text :=
  ((t.dropWhile p).reverse.dropWhile p).reverse

/-- **Trimming**: the text without its leading and trailing blanks. -/
def trim (t : Text) : Text := t.dropAround CodePoint.isBlank

/-- The text without its leading and trailing white space. -/
def trimSpace (t : Text) : Text := t.dropAround CodePoint.isWhiteSpace

/-- A text with nothing but blanks in it. -/
def isBlank (t : Text) : Bool := t.all CodePoint.isBlank

end Text

end FeatureFlags

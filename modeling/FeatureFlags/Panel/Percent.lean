import FeatureFlags.Text.Digit
import FeatureFlags.Text.Utf8

/-!
# Panel/Percent — percent-encoding in request targets

A percent sign with two hexadecimal digits stands for an octet, and the octets of a text are UTF-8.
Decoding never fails: a percent sign without two digits stands for itself, and octets that are no
UTF-8 become replacement characters.
-/

namespace FeatureFlags

namespace Percent

/-- The octet of two hexadecimal digits. -/
def octet? (high low : CodePoint) : Option UInt8 := do
  let h ← high.hexDigit?
  let l ← low.hexDigit?
  return (16 * h + l).toUInt8

/-- The octets of one code point; a surrogate has none. -/
def octetsOf : CodePoint → List UInt8
  | .scalar c => Utf8.encodeChar c
  | .surrogate _ => []

/-- The octets that an encoded text stands for. -/
def octets : Text → List UInt8
  | c :: a :: b :: t =>
    match if c = .scalar '%' then octet? a b else none with
    | some o => o :: octets t
    | none => octetsOf c ++ octets (a :: b :: t)
  | c :: t => octetsOf c ++ octets t
  | [] => []

/-- **Decoding.** -/
def decode (t : Text) : Text := .ofChars (Utf8.decodeLossy (octets t))

/-- An octet as a percent sign and two hexadecimal digits. -/
def escape (o : UInt8) : List Char := '%' :: Text.hexDigits 2 o.toNat

/-- **Encoding**, every octet as an escape. -/
def encode (t : Text) : Text := .ofChars ((t.flatMap octetsOf).flatMap escape)

end Percent

end FeatureFlags

import FeatureFlags.Text.Utf8
import FeatureFlags.Text.Wide

/-!
# Json/Encoding — the text of an encoded document

A document is encoded in UTF-8, UTF-16 or UTF-32.  A byte order mark tells which, and where there is
none, the zeros among the first octets do: a document begins with two ASCII characters or is one.
-/

namespace FeatureFlags

namespace Json

/-- The encodings of a document. -/
inductive Encoding where
  | utf8
  | utf16 (o : ByteOrder)
  | utf32 (o : ByteOrder)
deriving DecidableEq

namespace Encoding

/-- The encoding that the zeros among the first octets tell. -/
def ofZeros : List UInt8 → Encoding
  | a :: b :: c :: d :: _ =>
    if a = 0 then if b = 0 then .utf32 .big else .utf16 .big
    else if b = 0 then if c = 0 ∧ d = 0 then .utf32 .little else .utf16 .little
    else .utf8
  | [a, b] => if a = 0 then .utf16 .big else if b = 0 then .utf16 .little else .utf8
  | _ => .utf8

/-- **Telling the encoding**, and the octets behind a byte order mark. -/
def detect : List UInt8 → Encoding × List UInt8
  | 0x00 :: 0x00 :: 0xFE :: 0xFF :: octets => (.utf32 .big, octets)
  | 0xFF :: 0xFE :: 0x00 :: 0x00 :: octets => (.utf32 .little, octets)
  | 0xFE :: 0xFF :: octets => (.utf16 .big, octets)
  | 0xFF :: 0xFE :: octets => (.utf16 .little, octets)
  | 0xEF :: 0xBB :: 0xBF :: octets => (.utf8, octets)
  | octets => (ofZeros octets, octets)

/-- Decoding in an encoding. -/
def decode : Encoding → List UInt8 → Option Text
  | .utf8, octets => (Utf8.decode octets).toOption.map Text.ofChars
  | .utf16 o, octets => Utf16.decode o octets
  | .utf32 o, octets => Utf32.decode o octets

end Encoding

/-- **The text of a document.** -/
def textOf? (octets : List UInt8) : Option Text :=
  let (encoding, octets) := Encoding.detect octets
  encoding.decode octets

end Json

end FeatureFlags

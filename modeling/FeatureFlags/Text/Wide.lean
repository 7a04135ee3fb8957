import FeatureFlags.Text.CodePoint

/-!
# Text/Wide — decoding of UTF-16 and UTF-32

Octets are gathered to units of two or four, with the greatest octet first or last.  A high
surrogate directly before a low one is the character they encode; any other surrogate stands for
itself.  Octets that do not fill the last unit have no decoding, nor has a number beyond U+10FFFF.
-/

namespace FeatureFlags

/-- Whether the greatest octet of a unit comes first or last. -/
inductive ByteOrder where
  | big
  | little
deriving DecidableEq

namespace ByteOrder

/-- The number of the octets of a unit. -/
def number (o : ByteOrder) (octets : List UInt8) : Nat :=
  let greatestFirst := match o with
    | .big => octets
    | .little => octets.reverse
  greatestFirst.foldl (fun n b => 256 * n + b.toNat) 0

end ByteOrder

namespace Utf16

/-- The units of octets, if none is left over. -/
def units (o : ByteOrder) : List UInt8 → Option (List Nat)
  | [] => some []
  | a :: b :: octets => (units o octets).map (o.number [a, b] :: ·)
  | _ => none

/-- **Decoding of UTF-16.** -/
def decode (o : ByteOrder) (octets : List UInt8) : Option Text :=
  (units o octets).map fun us => Text.pairSurrogates (us.map CodePoint.ofNat)

end Utf16

namespace Utf32

/-- **Decoding of UTF-32.** -/
def decode (o : ByteOrder) : List UInt8 → Option Text
  | [] => some []
  | a :: b :: c :: d :: octets =>
    let n := o.number [a, b, c, d]
    if n < 0x110000 then (decode o octets).map (CodePoint.ofNat n :: ·) else none
  | _ => none

end Utf32

end FeatureFlags

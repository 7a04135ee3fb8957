import FeatureFlags.Text.CaseTable
import FeatureFlags.Text.CodePoint
import FeatureFlags.Text.Range

/-!
# Text/Case — lower-casing, and capitals for names in ASCII

Lower-casing works on the whole text: a capital sigma becomes the final small sigma when a cased
letter stands before it and none after it, marks and apostrophes being looked through, and the
dotted capital I becomes two code points.  Every other code point is mapped on its own.

Capitals are needed only to recognise names written in ASCII letters, so the table of capitals
lists the few letters outside ASCII whose capitals lie in ASCII; all others stand for themselves.
-/

namespace FeatureFlags

namespace CodePoint

/-- Looked through when the letters next to a sigma are sought. -/
def isCaseIgnorable (c : CodePoint) : Bool := Range.mem caseIgnorableRanges c.toNat

/-- A letter with a case. -/
def isCased (c : CodePoint) : Bool := Range.mem casedRanges c.toNat

/-- The small letters of one code point, whatever stands around it. -/
def lower (c : CodePoint) : List CodePoint :=
  let n := c.toNat
  if n < 0x80 then
    if 0x41 ≤ n ∧ n ≤ 0x5A then [ofNat (n + 32)] else [c]
  else if n = 0x130 then [.scalar 'i', ofNat 0x307]
  else match capitalRuns.findSome? (·.small? n) with
    | some small => [ofNat small]
    | none => [c]

/-- **The ASCII capitals of one code point**; a letter whose capitals leave ASCII is kept. -/
def asciiUpper (c : CodePoint) : Text :=
  let n := c.toNat
  if 0x61 ≤ n ∧ n ≤ 0x7A then [ofNat (n - 32)]
  else match n with
    | 0xDF => "SS"
    | 0x131 => "I"
    | 0x17F => "S"
    | 0xFB00 => "FF"
    | 0xFB01 => "FI"
    | 0xFB02 => "FL"
    | 0xFB03 => "FFI"
    | 0xFB04 => "FFL"
    | 0xFB05 => "ST"
    | 0xFB06 => "ST"
    | _ => [c]

end CodePoint

namespace Text

/-- Whether the first code point that is not looked through is a cased letter. -/
def meetsCased (t : Text) : Bool :=
  match t.dropWhile CodePoint.isCaseIgnorable with
  | [] => false
  | c :: _ => c.isCased

/-- Lower-casing a text of which `before` has been passed, the nearest code point first. -/
def lowerAfter (before : Text) : Text → Text
  | [] => []
  | c :: t =>
    (if c.toNat = 0x3A3 ∧ meetsCased before ∧ ¬ meetsCased t then [CodePoint.ofNat 0x3C2]
      else c.lower) ++ lowerAfter (c :: before) t

/-- **Lower-casing.** -/
def lower (t : Text) : Text := lowerAfter [] t

/-- **Capitals, as far as they lie in ASCII.** -/
def asciiUpper (t : Text) : Text := t.flatMap CodePoint.asciiUpper

end Text

end FeatureFlags

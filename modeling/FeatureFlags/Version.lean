import FeatureFlags.Text.Blank
import FeatureFlags.Text.Case
import FeatureFlags.Text.Numeral

/-!
# Version — application versions and their order

A version is dotted numbers and, behind a first hyphen, an optional tag: `1.2.0-beta`.  Versions are
ordered by their numbers, missing ones counting as zero, and then by their tags; a version without a
tag ranks above every version with one, and tags rank by code point.

The order is defined on every text, well formed or not: a number that cannot be read counts as zero,
and an empty tag as none.
-/

namespace FeatureFlags

/-- **A version**: its numbers and its tag. -/
structure Version where
  numbers : List Nat
  tag : Option Text
deriving DecidableEq

namespace Version

/-- What a part between dots counts for. -/
def number (part : Text) : Nat :=
  match Numeral.generous? part with
  | some (.ok n) => n.toNat
  | _ => 0

/-- The version of a text that is trimmed and in small letters. -/
def ofNormal (t : Text) : Version :=
  let (main, tag) := (t.cut? (.scalar '-')).getD (t, [])
  ⟨(main.splitOn (.scalar '.')).map number, if tag.isEmpty then none else some tag⟩

/-- Trimmed and in small letters. -/
def normalize (t : Text) : Text := t.trim.lower

/-- **The version of a text.** -/
def ofText (t : Text) : Version := ofNormal (normalize t)

/-- Nothing but zeros compared with the numbers of a list. -/
def compareZeros : List Nat → Ordering
  | [] => .eq
  | b :: bs => (compare 0 b).then (compareZeros bs)

/-- Numbers compared from left to right, the shorter list filled up with zeros. -/
def compareNumbers : List Nat → List Nat → Ordering
  | [], bs => compareZeros bs
  | a :: as, [] => (compare a 0).then (compareNumbers as [])
  | a :: as, b :: bs => (compare a b).then (compareNumbers as bs)

/-- Tags compared by code point; no tag is the greatest. -/
def compareTags : Option Text → Option Text → Ordering
  | none, none => .eq
  | none, some _ => .gt
  | some _, none => .lt
  | some a, some b => compare a b

/-- **The order of versions.** -/
protected def compare (a b : Version) : Ordering :=
  (compareNumbers a.numbers b.numbers).then (compareTags a.tag b.tag)

instance : Ord Version := ⟨Version.compare⟩

/-- The order of versions on texts. -/
def compareTexts (a b : Text) : Ordering := compare (ofText a) (ofText b)

/-- A code point that may open a tag. -/
def opensTag (c : CodePoint) : Bool :=
  match c with
  | .scalar c => ('0' ≤ c && c ≤ '9') || ('a' ≤ c && c ≤ 'z')
  | .surrogate _ => false

/-- A code point that may stand within a tag. -/
def inTag (c : CodePoint) : Bool := opensTag c || c = .scalar '.' || c = .scalar '-'

/-- A tag: an ASCII digit or small letter, then those, dots and hyphens. -/
def isTag : Text → Bool
  | [] => false
  | c :: t => opensTag c && t.all inTag

/-- A number between dots: one decimal digit or more. -/
def isNumber (t : Text) : Bool := !t.isEmpty && t.all CodePoint.isDigit

/-- Numbers with single dots between them. -/
def isDotted (t : Text) : Bool := (t.splitOn (.scalar '.')).all isNumber

/-- **Well formed**: dotted numbers, and behind a first hyphen a tag.  The text is taken as it
stands, neither trimmed nor in small letters. -/
def isVersion (t : Text) : Bool :=
  match t.cut? (.scalar '-') with
  | none => isDotted t
  | some (main, tag) => isDotted main && isTag tag

end Version

end FeatureFlags

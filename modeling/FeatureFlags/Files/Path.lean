import FeatureFlags.Text.CodePoint

/-!
# Files/Path — the normal form of paths

A path is relative or opens with one slash or with exactly two; three and more are one.  Repeated
slashes, trailing ones and the name `.` say nothing and go, while `..` stays: where it leads depends
on the files.
-/

namespace FeatureFlags

/-- How a path begins. -/
inductive PathRoot where
  | relative
  | absolute
  | double
deriving DecidableEq

/-- **A path in normal form.** -/
structure Path where
  root : PathRoot
  names : List Text
deriving DecidableEq

namespace Path

/-- The slash. -/
def slash : CodePoint := .scalar '/'

/-- The beginning of a path as written. -/
def rootOf (t : Text) : PathRoot :=
  match (t.takeWhile (· = slash)).length with
  | 0 => .relative
  | 2 => .double
  | _ => .absolute

/-- **The path of a text.** -/
def ofText (t : Text) : Path :=
  ⟨rootOf t, (t.splitOn slash).filter fun name => ¬ name.isEmpty ∧ name ≠ "."⟩

/-- What stands before the first name. -/
def rootText : PathRoot → Text
  | .relative => ""
  | .absolute => "/"
  | .double => "//"

/-- **The text of a path**; the relative path without names is `.`. -/
def toText (p : Path) : Text :=
  if p.root = .relative ∧ p.names.isEmpty then "." else rootText p.root ++ Text.join "/" p.names

end Path

end FeatureFlags

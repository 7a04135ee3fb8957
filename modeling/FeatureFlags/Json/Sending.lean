import FeatureFlags.Json.Printer
import FeatureFlags.Text.Utf8

/-!
# Json/Sending — JSON values on their way to a reader

A value is sent without any blanks between its parts and with every code point as it is, apart from
those that have to be escaped.  What cannot be encoded is not sent: a document is refused for the
first of its texts with a surrogate in it, a report as a whole, and a report also for a number that
is not finite.
-/

namespace FeatureFlags

namespace Json

/-- One code point within a string. -/
def compactPoint (c : CodePoint) : Text :=
  if c = .scalar '"' ∨ c = .scalar '\\' ∨ c.toNat < 0x20 then .ofChars (escapePoint c) else [c]

/-- A string. -/
def compactText (t : Text) : Text := .scalar '"' :: t.flatMap compactPoint ++ [.scalar '"']

mutual

/-- **A value without blanks.** -/
def compact : Json → Text
  | .str t => compactText t
  | .arr vs => .scalar '[' :: compactItems vs ++ [.scalar ']']
  | .obj fields => .scalar '\x7b' :: compactFields fields ++ [.scalar '\x7d']
  | v => .ofChars v.render

/-- Items, with commas between them. -/
def compactItems : List Json → Text
  | [] => []
  | [v] => compact v
  | v :: w :: vs => compact v ++ .scalar ',' :: compactItems (w :: vs)

/-- Fields, with commas between them. -/
def compactFields : List (Text × Json) → Text
  | [] => []
  | [(name, v)] => compactText name ++ .scalar ':' :: compact v
  | (name, v) :: f :: fields =>
    compactText name ++ .scalar ':' :: compact v ++ .scalar ',' :: compactFields (f :: fields)

end

mutual

/-- **What a report shows of a value**: fields are left out that have an internal name. -/
def shown : Json → Json
  | .arr vs => .arr (shownItems vs)
  | .obj fields => .obj (shownFields fields)
  | v => v

/-- What a report shows of items. -/
def shownItems : List Json → List Json
  | [] => []
  | v :: vs => shown v :: shownItems vs

/-- What a report shows of fields; an internal name opens with an underscore, `s` and `a`. -/
def shownFields : List (Text × Json) → List (Text × Json)
  | [] => []
  | (name, v) :: fields =>
    if (name.after? "_sa").isSome then shownFields fields
    else (name, shown v) :: shownFields fields

end

mutual

/-- Whether all numbers in a value are finite. -/
def isFinite : Json → Bool
  | .float x => x.isFinite
  | .arr vs => areFinite vs
  | .obj fields => areFiniteFields fields
  | _ => true

/-- Whether all numbers in items are finite. -/
def areFinite : List Json → Bool
  | [] => true
  | v :: vs => isFinite v && areFinite vs

/-- Whether all numbers in fields are finite. -/
def areFiniteFields : List (Text × Json) → Bool
  | [] => true
  | (_, v) :: fields => isFinite v && areFiniteFields fields

end

mutual

/-- All texts in a value, in the order in which they are written. -/
def strings : Json → List Text
  | .str t => [t]
  | .arr vs => stringsOfItems vs
  | .obj fields => stringsOfFields fields
  | _ => []

/-- All texts in items. -/
def stringsOfItems : List Json → List Text
  | [] => []
  | v :: vs => strings v ++ stringsOfItems vs

/-- All texts in fields, the names among them. -/
def stringsOfFields : List (Text × Json) → List Text
  | [] => []
  | (name, v) :: fields => name :: strings v ++ stringsOfFields fields

end

/-- **Why a value is not sent.** -/
inductive Unsendable where
  | notFinite
  | text (u : Utf8.Unencodable)
  | report (u : Utf8.Unencodable)

/-- The wording of the failure. -/
def Unsendable.message : Unsendable → Text
  | .notFinite => "Out of range float values are not JSON compliant"
  | .text u => "Error serializing to JSON: UnicodeEncodeError: " ++ u.message
  | .report u => u.message

/-- **Sending a document.** -/
def send (v : Json) : Except Unsendable (List Char) := do
  v.strings.forM fun t => do let _ ← (Utf8.characters t).mapError .text
  (Utf8.characters v.compact).mapError .text

/-- **Sending a report.** -/
def sendReport (v : Json) : Except Unsendable (List Char) :=
  if v.shown.isFinite then (Utf8.characters v.shown.compact).mapError .report
  else .error .notFinite

end Json

end FeatureFlags

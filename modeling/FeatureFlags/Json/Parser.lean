import FeatureFlags.Json.Basic
import FeatureFlags.Text.Numeral

/-!
# Json/Parser — reading JSON documents

The reader accepts standard JSON and the three constants `NaN`, `Infinity` and `-Infinity`.  On a
malformed document it names the defect and the offset of the code point at which it lies, counted
from zero.  A whole number of too many digits and a nesting that is too deep are failures of their
own, and of several failures the one that is met first wins.

Inside, a defect carries the part of the document that begins where the defect lies; its offset is
how much shorter that part is than the document.
-/

namespace FeatureFlags

namespace Json

/-- What can be wrong with a document. -/
inductive Defect where
  | value
  | propertyName
  | colon
  | comma
  | extraData
  | openString
  | controlCharacter
  | escape
  | unicodeEscape
  | byteOrderMark
deriving DecidableEq

/-- The wording of a defect. -/
def Defect.message : Defect → Text
  | .value => "Expecting value"
  | .propertyName => "Expecting property name enclosed in double quotes"
  | .colon => "Expecting ':' delimiter"
  | .comma => "Expecting ',' delimiter"
  | .extraData => "Extra data"
  | .openString => "Unterminated string starting at"
  | .controlCharacter => "Invalid control character at"
  | .escape => "Invalid \\escape"
  | .unicodeEscape => "Invalid \\uXXXX escape"
  | .byteOrderMark => "Unexpected UTF-8 BOM (decode using utf-8-sig)"

/-- What opens a further level of nesting. -/
inductive Nesting where
  | array
  | object
deriving DecidableEq

/-- The wording for a nesting that is too deep, where the innermost level is opened. -/
def Nesting.message (n : Nesting) : Text :=
  let level : Text := match n with
    | .array => "array"
    | .object => "object"
  "maximum recursion depth exceeded while decoding a JSON " ++ level ++ " from a unicode string"

/-- **Why a document was not read.** -/
inductive Failure where
  | malformed (defect : Defect) (offset : Nat)
  | overlong (o : Overlong)
  | tooDeep (n : Nesting)

namespace Parser

/-- A failure on the way, a defect with the part of the document at which it lies. -/
inductive Halt where
  | malformed (defect : Defect) (at_ : Text)
  | overlong (o : Overlong)
  | tooDeep (n : Nesting)

/-- The result of reading a leading part: what it says, and the rest. -/
abbrev Step (α : Type) := Except Halt (α × Text)

/-- **How many levels of nesting a document may have.**  The reader calls itself at each level, so the
limit is what is left of the stack when it is called: this is the number for a stack of 1000 calls
with 25 of them in use, and deeper in the program it is a smaller one.  A result that names the limit
is meant for any such number; a document of 2999 levels is beyond all of them. -/
def depthLimit : Nat := 975

/-- Blanks between tokens. -/
def isSpace (c : CodePoint) : Bool :=
  c = .scalar ' ' || c = .scalar '\t' || c = .scalar '\n' || c = .scalar '\r'

/-- The rest behind leading blanks. -/
def skip (s : Text) : Text := s.dropWhile isSpace

/-- An ASCII digit. -/
def isDigit (c : CodePoint) : Bool := c.asciiDigit?.isSome

/-- The number of four hexadecimal digits, which may not end the document. -/
def fourHex? : Text → Option (Nat × Text)
  | a :: b :: c :: d :: x :: t => do
    let n ← [a, b, c, d].foldlM (fun n h => h.hexDigit?.map (16 * n + ·)) 0
    return (n, x :: t)
  | _ => none

theorem fourHex?_length {s t : Text} {n : Nat} (h : fourHex? s = some (n, t)) :
    t.length < s.length := by
  unfold fourHex? at h
  split at h
  · simp only [Option.pure_def, Option.bind_eq_bind, Option.bind_eq_some_iff] at h
    obtain ⟨m, _, hm⟩ := h
    simp only [Option.some.injEq, Prod.mk.injEq] at hm
    obtain ⟨_, rfl⟩ := hm
    simp only [List.length_cons]
    omega
  · simp at h

/-- The code point that a letter stands for behind a backslash. -/
def unescape? : CodePoint → Option CodePoint
  | .scalar '"' => some (.scalar '"')
  | .scalar '\\' => some (.scalar '\\')
  | .scalar '/' => some (.scalar '/')
  | .scalar 'b' => some (.scalar '\x08')
  | .scalar 'f' => some (.scalar '\x0c')
  | .scalar 'n' => some (.scalar '\n')
  | .scalar 'r' => some (.scalar '\r')
  | .scalar 't' => some (.scalar '\t')
  | _ => none

/-- **The inside of a string** up to its closing quote; `opening` begins at the opening one. -/
def scanString (opening : Text) (s : Text) : Step Text :=
  match s with
  | [] => .error (.malformed .openString opening)
  | .scalar '"' :: t => .ok ([], t)
  | [.scalar '\\'] => .error (.malformed .openString opening)
  | .scalar '\\' :: .scalar 'u' :: t =>
    match h : fourHex? t with
    | none => .error (.malformed .unicodeEscape (.scalar 'u' :: t))
    | some (n, rest) =>
      have : rest.length < t.length := fourHex?_length h
      (scanString opening rest).map fun (text, r) => (CodePoint.ofNat n :: text, r)
  | .scalar '\\' :: c :: t =>
    match unescape? c with
    | none => .error (.malformed .escape (.scalar '\\' :: c :: t))
    | some d => (scanString opening t).map fun (text, r) => (d :: text, r)
  | c :: t =>
    if c.toNat < 0x20 then .error (.malformed .controlCharacter (c :: t))
    else (scanString opening t).map fun (text, r) => (c :: text, r)
termination_by s.length
decreasing_by all_goals simp only [List.length_cons] at *; omega

/-- A string, from behind its opening quote; its surrogates are paired. -/
def string (s : Text) : Step Text :=
  (scanString (.scalar '"' :: s) s).map fun (text, rest) => (text.pairSurrogates, rest)

/-- Leading ASCII digits. -/
def digits (s : Text) : Text × Text := s.span isDigit

/-- The values of ASCII digits. -/
def values (ds : Text) : List Nat := ds.filterMap CodePoint.asciiDigit?

/-- A point and digits, if both are there. -/
def fraction : Text → Text × Text
  | .scalar '.' :: t =>
    match digits t with
    | ([], _) => ([], .scalar '.' :: t)
    | (ds, rest) => (ds, rest)
  | s => ([], s)

/-- The letter of an exponent, an optional sign and digits, if letter and digits are there. -/
def exponent : Text → Option Int × Text
  | c :: t =>
    if c = .scalar 'e' ∨ c = .scalar 'E' then
      let (negative, u) := Numeral.sign t
      match digits u with
      | ([], _) => (none, c :: t)
      | (ds, rest) => (some (Numeral.signed negative (Numeral.value (values ds))), rest)
    else (none, c :: t)
  | [] => (none, [])

/-- **A number**: whole if neither fraction nor exponent follows the digits. -/
def number (s : Text) : Step Json :=
  let (negative, t) : Bool × Text := match s with
    | .scalar '-' :: t => (true, t)
    | t => (false, t)
  let (whole, t) : Text × Text := match t with
    | .scalar '0' :: t => ("0", t)
    | t => digits t
  if whole.isEmpty then .error (.malformed .value s)
  else
    let (frac, t) := fraction t
    let (power, t) := exponent t
    if frac.isEmpty ∧ power.isNone then
      match Numeral.ofDigits (values whole) with
      | .error o => .error (.overlong o)
      | .ok n => .ok (.int (Numeral.signed negative n), t)
    else
      let coefficient := Numeral.value (values (whole ++ frac))
      .ok (.float (.ofDecimal negative coefficient (power.getD 0 - frac.length)), t)

/-- The constants, with the values they stand for. -/
def constants : List (Text × Json) :=
  [("null", .null), ("true", .bool true), ("false", .bool false), ("NaN", .float .nan),
   ("Infinity", .float (.infinite false)), ("-Infinity", .float (.infinite true))]

/-- A leading constant, if there is one. -/
def constant? (s : Text) : Option (Json × Text) :=
  constants.findSome? fun (name, v) => (s.after? name).map fun rest => (v, rest)

mutual

/-- **A value** without leading blanks, with as many levels of nesting as `depth` allows; `fuel`
bounds the number of values within each other and side by side. -/
def value : Nat → Nat → Text → Step Json
  | 0, _, s => .error (.malformed .value s)
  | fuel + 1, depth, s =>
    match s with
    | .scalar '"' :: t => (string t).map fun (text, rest) => (.str text, rest)
    | .scalar '[' :: t =>
      match depth with
      | 0 => .error (.tooDeep .array)
      | depth + 1 =>
        match skip t with
        | .scalar ']' :: rest => .ok (.arr [], rest)
        | t => (items fuel depth t).map fun (vs, rest) => (.arr vs, rest)
    | .scalar '\x7b' :: t =>
      match depth with
      | 0 => .error (.tooDeep .object)
      | depth + 1 =>
        match skip t with
        | .scalar '\x7d' :: rest => .ok (.obj [], rest)
        | t => (members fuel depth [] t).map fun (fields, rest) => (.obj fields, rest)
    | s =>
      match constant? s with
      | some found => .ok found
      | none => number s

/-- The items of an array, from the first one to behind the closing bracket. -/
def items : Nat → Nat → Text → Step (List Json)
  | 0, _, s => .error (.malformed .value s)
  | fuel + 1, depth, s =>
    match value fuel depth s with
    | .error e => .error e
    | .ok (v, t) =>
      match skip t with
      | .scalar ']' :: rest => .ok ([v], rest)
      | .scalar ',' :: rest => (items fuel depth (skip rest)).map fun (vs, rest) => (v :: vs, rest)
      | t => .error (.malformed .comma t)

/-- The fields of an object, from the first one to behind the closing brace. -/
def members : Nat → Nat → List (Text × Json) → Text → Step (List (Text × Json))
  | 0, _, _, s => .error (.malformed .value s)
  | fuel + 1, depth, fields, s =>
    match s with
    | .scalar '"' :: t =>
      match string t with
      | .error e => .error e
      | .ok (name, t) =>
        match skip t with
        | .scalar ':' :: t =>
          match value fuel depth (skip t) with
          | .error e => .error e
          | .ok (v, t) =>
            match skip t with
            | .scalar '\x7d' :: rest => .ok (setField name v fields, rest)
            | .scalar ',' :: rest => members fuel depth (setField name v fields) (skip rest)
            | t => .error (.malformed .comma t)
        | t => .error (.malformed .colon t)
    | s => .error (.malformed .propertyName s)

end

/-- A document: blanks, one value, blanks. -/
def document (s : Text) : Except Halt Json :=
  match value (2 * s.length + 2) depthLimit (skip s) with
  | .error e => .error e
  | .ok (v, t) =>
    match skip t with
    | [] => .ok v
    | t => .error (.malformed .extraData t)

end Parser

/-- **Reading a document.** -/
def parse (s : Text) : Except Failure Json :=
  match s with
  | .scalar '\uFEFF' :: _ => .error (.malformed .byteOrderMark 0)
  | s =>
    match Parser.document s with
    | .ok v => .ok v
    | .error (.overlong o) => .error (.overlong o)
    | .error (.tooDeep n) => .error (.tooDeep n)
    | .error (.malformed defect rest) => .error (.malformed defect (s.length - rest.length))

/-- The line of an offset, counted from one. -/
def lineOf (s : Text) (offset : Nat) : Nat := (s.take offset).count (.scalar '\n') + 1

end Json

end FeatureFlags

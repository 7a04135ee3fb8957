import FeatureFlags.Text.CodePoint

/-!
# Text/Utf8 — encoding and decoding of UTF-8

Decoding looks at one sequence at a time.  A sequence that is cut short, or that goes on with an
octet it does not allow, is faulty up to the first octet that rules it out; the fault says where it
lies and of which kind it is.  A strict reader stops there; a lenient one puts U+FFFD in its place
and goes on behind it.

Every character has an encoding, and a surrogate has none.
-/

namespace FeatureFlags

namespace Utf8

/-- The ways in which octets fail to be UTF-8. -/
inductive Defect where
  | start
  | continuation
  | truncated
deriving DecidableEq

/-- The wording of a defect. -/
def Defect.message : Defect → Text
  | .start => "invalid start byte"
  | .continuation => "invalid continuation byte"
  | .truncated => "unexpected end of data"

/-- **A fault**: the octets from `position` on, `length` of them and `octet` first, are no UTF-8. -/
structure Fault where
  defect : Defect
  octet : UInt8
  position : Nat
  length : Nat

/-- The wording of a fault. -/
def Fault.message (f : Fault) : Text :=
  let octets : Text :=
    if f.length = 1 then
      "byte 0x" ++ Text.ofChars (Text.hexDigits 2 f.octet.toNat) ++ " in position "
        ++ Text.ofNat f.position
    else
      "bytes in position " ++ Text.ofNat f.position ++ "-"
        ++ Text.ofNat (f.position + f.length - 1)
  "'utf-8' codec can't decode " ++ octets ++ ": " ++ f.defect.message

/-- What a first octet announces: the bits it carries, and for each octet that must follow the
least and the greatest it may be. -/
def announced (b : Nat) : Option (Nat × List (Nat × Nat)) :=
  if b < 0x80 then some (b, [])
  else if b < 0xC2 then none
  else if b < 0xE0 then some (b - 0xC0, [tail])
  else if b = 0xE0 then some (b - 0xE0, [(0xA0, 0xBF), tail])
  else if b = 0xED then some (b - 0xE0, [(0x80, 0x9F), tail])
  else if b < 0xF0 then some (b - 0xE0, [tail, tail])
  else if b = 0xF0 then some (b - 0xF0, [(0x90, 0xBF), tail, tail])
  else if b = 0xF4 then some (b - 0xF0, [(0x80, 0x8F), tail, tail])
  else if b < 0xF4 then some (b - 0xF0, [tail, tail, tail])
  else none
where
  /-- The octets that may follow without a further restriction. -/
  tail : Nat × Nat := (0x80, 0xBF)

/-- **The octets that follow the first one**: the number gathered and what is left, or the defect
and how many octets were still in order. -/
def follow (number taken : Nat) :
    List (Nat × Nat) → List UInt8 → Except (Defect × Nat) (Nat × List UInt8)
  | [], bytes => .ok (number, bytes)
  | _ :: _, [] => .error (.truncated, taken)
  | (least, greatest) :: bounds, b :: bytes =>
    if least ≤ b.toNat ∧ b.toNat ≤ greatest then
      follow (number * 64 + (b.toNat - 0x80)) (taken + 1) bounds bytes
    else .error (.continuation, taken)

theorem follow_length {number taken : Nat} {bounds : List (Nat × Nat)} {bytes rest : List UInt8}
    {n : Nat} (h : follow number taken bounds bytes = .ok (n, rest)) :
    rest.length ≤ bytes.length := by
  induction bounds generalizing number taken bytes with
  | nil => simp only [follow, Except.ok.injEq, Prod.mk.injEq] at h; simp [h.2]
  | cons bound bounds ih =>
    cases bytes with
    | nil => simp [follow] at h
    | cons b bytes =>
      simp only [follow] at h
      split at h
      · exact Nat.le_trans (ih h) (Nat.le_succ _)
      · simp at h

/-- **Strict decoding** of the octets from `position` on. -/
def decodeFrom (position : Nat) : List UInt8 → Except Fault (List Char)
  | [] => .ok []
  | b :: bytes =>
    match announced b.toNat with
    | none => .error ⟨.start, b, position, 1⟩
    | some (number, bounds) =>
      match h : follow number 1 bounds bytes with
      | .error (defect, taken) => .error ⟨defect, b, position, taken⟩
      | .ok (n, rest) =>
        have : rest.length ≤ bytes.length := follow_length h
        (decodeFrom (position + 1 + bounds.length) rest).map (Char.ofNat n :: ·)
termination_by bytes => bytes.length
decreasing_by simp only [List.length_cons]; omega

/-- **Strict decoding**: the characters, or the first fault. -/
def decode (bytes : List UInt8) : Except Fault (List Char) := decodeFrom 0 bytes

/-- **Lenient decoding**: each fault becomes one replacement character. -/
def decodeLossy : List UInt8 → List Char
  | [] => []
  | b :: bytes =>
    match announced b.toNat with
    | none => '\uFFFD' :: decodeLossy bytes
    | some (number, bounds) =>
      match h : follow number 1 bounds bytes with
      | .error (_, taken) => '\uFFFD' :: decodeLossy (bytes.drop (taken - 1))
      | .ok (n, rest) =>
        have : rest.length ≤ bytes.length := follow_length h
        Char.ofNat n :: decodeLossy rest
termination_by bytes => bytes.length
decreasing_by
  all_goals simp only [List.length_cons, List.length_drop]
  all_goals omega

/-! ## Encoding -/

/-- **What keeps a text from being encoded**: its first surrogates, `length` of them from `position`
on. -/
structure Unencodable where
  first : CodePoint
  position : Nat
  length : Nat

/-- The wording of the failure. -/
def Unencodable.message (u : Unencodable) : Text :=
  let place : Text :=
    if u.length = 1 then
      "character '\\u" ++ Text.ofChars (Text.hexDigits 4 u.first.toNat) ++ "' in position "
        ++ Text.ofNat u.position
    else
      "characters in position " ++ Text.ofNat u.position ++ "-"
        ++ Text.ofNat (u.position + u.length - 1)
  "'utf-8' codec can't encode " ++ place ++ ": surrogates not allowed"

/-- **The characters of a text** that can be encoded. -/
def characters (t : Text) : Except Unencodable (List Char) :=
  match t.chars? with
  | some cs => .ok cs
  | none =>
    let before := t.takeWhile (!·.isSurrogate)
    let run := (t.drop before.length).takeWhile (·.isSurrogate)
    .error ⟨run.headD default, before.length, run.length⟩

/-- The octets of one character. -/
def encodeChar (c : Char) : List UInt8 :=
  let n := c.toNat
  if n < 0x80 then [n.toUInt8]
  else if n < 0x800 then [(0xC0 + n / 64).toUInt8, (0x80 + n % 64).toUInt8]
  else if n < 0x10000 then
    [(0xE0 + n / 4096).toUInt8, (0x80 + n / 64 % 64).toUInt8, (0x80 + n % 64).toUInt8]
  else
    [(0xF0 + n / 262144).toUInt8, (0x80 + n / 4096 % 64).toUInt8, (0x80 + n / 64 % 64).toUInt8,
      (0x80 + n % 64).toUInt8]

/-- **Encoding.** -/
def encode (cs : List Char) : List UInt8 := cs.flatMap encodeChar

end Utf8

end FeatureFlags

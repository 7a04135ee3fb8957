import FeatureFlags.Files.Tree
import FeatureFlags.Json.Parser
import FeatureFlags.Panel.Label
import FeatureFlags.Switchboard.Basic

/-!
# Command/Output — printed text, and how a command ends

Text is printed line by line, without the sequences that colour a terminal.  A line with a surrogate
in it cannot be printed, and ends the command.  What was printed before stays printed.
-/

namespace FeatureFlags

/-- Why a command breaks down. -/
inductive Breakdown where
  | failure (f : Failure)
  | nullInPath
  | pathTooLong (f : PathTooLong)
  | tooDeep (n : Json.Nesting)
  | unlabelled (l : Panel.Label)
  | unencodable (u : Utf8.Unencodable)

/-- The wording for a null character in a path. -/
def Breakdown.nullInPathMessage : Text := "embedded null byte"

/-- How a command ends before its end: it breaks down, or reports an error. -/
inductive Abort where
  | breakdown (b : Breakdown)
  | report (message : Text)

/-- **Printing**: what was printed stays printed, however it ends. -/
abbrev Console := ExceptT Abort (StateM (List Char))

namespace Console

/-- The parameters of a terminal sequence. -/
def isParameter (c : CodePoint) : Bool := 0x30 ≤ c.toNat && c.toNat ≤ 0x3F

/-- What may stand between the parameters and the end. -/
def isIntermediate (c : CodePoint) : Bool := 0x20 ≤ c.toNat && c.toNat ≤ 0x2F

/-- What ends a terminal sequence. -/
def isFinal (c : CodePoint) : Bool := 0x40 ≤ c.toNat && c.toNat ≤ 0x7E

/-- Behind the parameters of a terminal sequence, what follows them and its end, if it has one. -/
def behindSequence? (t : Text) : Option Text :=
  match (t.dropWhile isParameter).dropWhile isIntermediate with
  | c :: rest => if isFinal c then some rest else none
  | [] => none

/-- Whether a terminal sequence opens a text, and what is left behind it. -/
def sequence? : Text → Option Text
  | .scalar '\x1b' :: .scalar '[' :: t => behindSequence? t
  | _ => none

theorem behindSequence?_length {t rest : Text} (h : behindSequence? t = some rest) :
    rest.length < t.length := by
  have shorter : ((t.dropWhile isParameter).dropWhile isIntermediate).length ≤ t.length :=
    ((List.dropWhile_sublist _).trans (List.dropWhile_sublist _)).length_le
  unfold behindSequence? at h
  split at h
  · rename_i c r hr
    split at h
    · cases h
      rw [hr] at shorter
      exact Nat.lt_of_succ_le shorter
    · cases h
  · cases h

theorem sequence?_length {t rest : Text} (h : sequence? t = some rest) :
    rest.length < t.length := by
  unfold sequence? at h
  split at h
  · have := behindSequence?_length h
    simp only [List.length_cons]
    omega
  · cases h

/-- **A text without terminal sequences.** -/
def plain (t : Text) : Text :=
  match h : sequence? t with
  | some rest =>
    have := sequence?_length h
    plain rest
  | none =>
    match t with
    | [] => []
    | c :: t => c :: plain t
termination_by t.length

/-- **Printing a line.** -/
def line (t : Text) : Console Unit := do
  match Utf8.characters (plain t ++ "\n") with
  | .ok cs => modify (· ++ cs)
  | .error u => throw (.breakdown (.unencodable u))

end Console

end FeatureFlags

import FeatureFlags.Fault
import FeatureFlags.Files.Tree
import FeatureFlags.Flag.Decoding
import FeatureFlags.Json.Parser
import FeatureFlags.Log
import FeatureFlags.Text.Lines

/-!
# Flag/Loading — flags kept in a file

A file of flags holds one JSON document: a list of flags, or an object with such a list as its field
`features`.  Without a file there are no flags.  Loading gives all flags of the document in order or
fails; nearly every failure names the path and a reason.
-/

namespace FeatureFlags

namespace Flag

/-- **The list of flags in a document.** -/
def listed : Json → Json
  | .obj fields => (Json.lookup? "features" fields).getD (.arr [])
  | v => v

/-- **The flags of a document.** -/
def ofDocument (document : Json) : Checked (List Flag) := decodeList (listed document)

end Flag

/-- Why a file gives no flags. -/
inductive Unloadable where
  | directory (path : Path)
  | undecodable (fault : Utf8.Fault)
  | malformed (defect : Json.Defect) (line : Nat)
  | invalid (issues : Nat)

/-- The wording of a reason. -/
def Unloadable.message : Unloadable → Text
  | .directory path => "unreadable file ([Errno 21] Is a directory: " ++ path.toText.quoted ++ ")"
  | .undecodable fault => "unreadable file (" ++ fault.message ++ ")"
  | .malformed defect line =>
    "invalid JSON (" ++ defect.message ++ " at line " ++ Text.ofNat line ++ ")"
  | .invalid issues => "invalid feature data (" ++ Text.ofNat issues ++ " errors)"

/-- **Why loading fails**: for a reason, or because a numeral or the path is too long or the
document too deeply nested. -/
inductive LoadFailure where
  | unloadable (path : Path) (reason : Unloadable)
  | overlong (o : Overlong)
  | tooDeep (n : Json.Nesting)
  | unreachable (failure : PathTooLong)

/-- The fault of a failure that has a reason. -/
def LoadFailure.fault? : LoadFailure → Option Fault
  | .unloadable path reason => some (.unloadable path.toText reason.message)
  | _ => none

/-- What comes of loading: the records left, and the flags. -/
structure Loading where
  records : List Record
  result : Except LoadFailure (List Flag)

namespace Loading

/-- **The flags in the content of a file.** -/
def read (path : Path) (content : List UInt8) : Except LoadFailure (List Flag) :=
  match Utf8.decode content with
  | .error fault => .error (.unloadable path (.undecodable fault))
  | .ok cs =>
    let text := Text.ofChars (Lines.unify cs)
    match Json.parse text with
    | .error (.overlong o) => .error (.overlong o)
    | .error (.tooDeep n) => .error (.tooDeep n)
    | .error (.malformed defect offset) =>
      .error (.unloadable path (.malformed defect (Json.lineOf text offset)))
    | .ok document =>
      match Flag.ofDocument document with
      | .error issues => .error (.unloadable path (.invalid issues.length))
      | .ok flags => .ok flags

/-- **Loading the flags at a path.** -/
def load (files : FileTree) (path : Path) : Loading :=
  match files.find? path with
  | .error failure => ⟨[], .error (.unreachable failure)⟩
  | .ok none => ⟨[⟨.debug, "No cached features at " ++ path.toText⟩], .ok []⟩
  | .ok (some .directory) => ⟨[], .error (.unloadable path (.directory path))⟩
  | .ok (some (.file content)) =>
    match read path content with
    | .error failure => ⟨[], .error failure⟩
    | .ok flags =>
      ⟨[⟨.info, "Loaded " ++ Text.ofNat flags.length ++ " cached features from " ++ path.toText⟩],
        .ok flags⟩

end Loading

end FeatureFlags

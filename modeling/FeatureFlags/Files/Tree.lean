import FeatureFlags.Files.Path
import FeatureFlags.Text.Quoted
import FeatureFlags.Text.Utf8

/-!
# Files/Tree — the files a path may lead to

Files and directories are listed with their paths, below the working directory or below the root.
Of the directories above the working directory only their existence is known.  A path is followed
name by name, and a name or a path that is too long is refused when it is met.

A path may also be followed as it is written.  Then a slash behind a file, which its normal form
does not show, leads nowhere.
-/

namespace FeatureFlags

/-- What a path may lead to. -/
inductive Entry where
  | directory
  | file (content : List UInt8)

/-- **Files and directories**, each with its path. -/
abbrev FileTree := List (Path × Entry)

/-- A path that is too long, or has a name that is. -/
structure PathTooLong where
  path : Path
deriving DecidableEq

/-- The wording of the failure. -/
def PathTooLong.message (f : PathTooLong) : Text :=
  "[Errno 36] File name too long: " ++ f.path.toText.quoted

/-- A directory on the way: one above the working directory, or one that is reached from the working
directory or the root by the names passed, the last one first. -/
inductive Place where
  | above
  | below (root : PathRoot) (passed : List Text)

namespace Place

/-- Where a path begins. -/
def start : PathRoot → Place
  | .relative => .below .relative []
  | _ => .below .absolute []

/-- The directory above; the root is above itself. -/
def up : Place → Place
  | .below root (_ :: passed) => .below root passed
  | .below .relative [] => .above
  | place => place

end Place

namespace FileTree

/-- The octets of a text; a text with a surrogate in it has none. -/
def octets (t : Text) : Nat := ((t.chars?.map Utf8.encode).getD []).length

/-- The greatest number of octets of one name. -/
def nameLimit : Nat := 255

/-- The number of octets that a whole path has to stay below. -/
def pathLimit : Nat := 4096

/-- Whether a path leads on to something that is listed. -/
def leadsOn (files : FileTree) (path : Path) : Bool :=
  files.any fun (listed, _) => listed.root = path.root && path.names.isPrefixOf listed.names

/-- **What is at a path**: the entry that is listed, or a directory on the way to one. -/
def entry? (files : FileTree) (path : Path) : Option Entry :=
  match files.find? (·.1 = path) with
  | some (_, entry) => some entry
  | none => if files.leadsOn path then some .directory else none

/-- **Following names** from a directory: the entry they lead to, `none` if there is none, and a
failure if a name is too long. -/
def follow (files : FileTree) : Place → List Text → Except Unit (Option Entry)
  | _, [] => .ok (some .directory)
  | place, name :: names =>
    if name = "" ∨ name = "." then follow files place names
    else if name = ".." then follow files place.up names
    else if nameLimit < octets name then .error ()
    else match place with
      | .above => .ok none
      | .below root passed =>
        match files.entry? ⟨root, passed.reverse ++ [name]⟩ with
        | none => .ok none
        | some .directory => follow files (.below root (name :: passed)) names
        | some (.file content) => .ok (if names.isEmpty then some (.file content) else none)

/-- **The entry of a path as it is written.** -/
def search (files : FileTree) (text : Text) : Except Unit (Option Entry) :=
  if text.isEmpty then .ok none
  else if pathLimit ≤ octets text then .error ()
  else follow files (.start (Path.rootOf text)) (text.splitOn Path.slash)

/-- **The entry of a path.**  No entry has a name with a null character in it. -/
def find? (files : FileTree) (path : Path) : Except PathTooLong (Option Entry) :=
  if path.toText.contains (.scalar '\x00') then .ok none
  else (files.search path.toText).mapError fun _ => ⟨path⟩

end FileTree

end FeatureFlags

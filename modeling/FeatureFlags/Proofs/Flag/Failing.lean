import FeatureFlags.Command.Run
import FeatureFlags.Proofs.Flag.Loading
import FeatureFlags.Proofs.Json.Limits
import FeatureFlags.Proofs.Text.Utf8

/-!
# Proofs/Flag/Failing — how loading fails

Loading is meant to give flags or to fail with a fault that names the path (`Declared`).  It does so
unless it meets a limit that is not looked for: a path that is too long, a whole number of too many
digits, or too many levels of nesting (`Escapes`, `load_declared_iff`).  The command that checks a
file reports the fault, and where a limit is met it breaks down.
-/

namespace FeatureFlags

namespace Loading

variable {files : FileTree} {path : Path} {content : List UInt8} {failure : LoadFailure}

/-! ## Declared failures -/

/-- **The declared ways to end**: with flags whose names are valid, or with a fault that names the
path. -/
inductive Declared (path : Path) : Except LoadFailure (List Flag) → Prop
  | flags {fs : List Flag} (h : ∀ f ∈ fs, Flag.validName f.name) : Declared path (.ok fs)
  | fault (reason : Unloadable) : Declared path (.error (.unloadable path reason))

/-- A file whose text, lines unified, taxes the reader. -/
def TaxingFile (content : List UInt8) : Prop :=
  ∃ cs, Utf8.decode content = .ok cs ∧ Json.Taxing (.ofChars (Lines.unify cs))

/-- **What escapes the declared ways**: a path that is too long, and a file that taxes the reader. -/
inductive Escapes (files : FileTree) (path : Path) : Prop
  | tooLong {x : PathTooLong} (h : files.find? path = .error x)
  | taxing {content : List UInt8} (h : files.find? path = .ok (some (.file content)))
      (hcontent : TaxingFile content)

/-- A name that is too long is met only where there is one. -/
theorem exists_longName {place : Place} {names : List Text} {e : Unit}
    (h : files.follow place names = .error e) :
    ∃ name ∈ names, FileTree.nameLimit < FileTree.octets name := by
  fun_induction FileTree.follow files place names with
  | case1 | case5 | case6 | case8 => cases h
  | case4 place name names _ _ hlong => exact ⟨name, List.mem_cons_self, hlong⟩
  | case2 _ _ _ _ ih | case3 _ _ _ ih | case7 _ _ _ _ _ _ _ _ ih =>
    obtain ⟨name, hname, hlong⟩ := ih h
    exact ⟨name, List.mem_cons_of_mem _ hname, hlong⟩

/-- A path that is too long to be followed. -/
theorem long_of_find? {x : PathTooLong} (h : files.find? path = .error x) :
    FileTree.pathLimit ≤ FileTree.octets path.toText ∨
      ∃ name ∈ path.toText.splitOn Path.slash, FileTree.nameLimit < FileTree.octets name := by
  rw [FileTree.find?] at h
  split at h
  · cases h
  rw [FileTree.search] at h
  split at h
  · cases h
  split at h
  · exact .inl ‹_›
  · right
    cases hfollow : files.follow (.start (Path.rootOf path.toText))
      (path.toText.splitOn Path.slash) with
    | ok => rw [hfollow] at h; cases h
    | error e => exact exists_longName hfollow

/-- **What escapes is heavy**: the path or a name in it is long, or the file has many digits in a row
or many openings. -/
theorem Escapes.heavy (h : Escapes files path) :
    FileTree.pathLimit ≤ FileTree.octets path.toText ∨
    (∃ name ∈ path.toText.splitOn Path.slash, FileTree.nameLimit < FileTree.octets name) ∨
    ∃ content cs, files.find? path = .ok (some (.file content)) ∧ Utf8.decode content = .ok cs ∧
      Json.Heavy Json.Parser.depthLimit (.ofChars (Lines.unify cs)) := by
  cases h with
  | tooLong h => exact or_assoc.1 (.inl (long_of_find? h))
  | taxing h hcontent =>
    obtain ⟨cs, hcs, htaxing⟩ := hcontent
    exact .inr (.inr ⟨_, cs, h, hcs, htaxing.heavy⟩)

/-- Why a text is not read, as a failure of loading. -/
def refusal (path : Path) (text : Text) : Json.Failure → LoadFailure
  | .overlong o => .overlong o
  | .tooDeep n => .tooDeep n
  | .malformed defect offset => .unloadable path (.malformed defect (Json.lineOf text offset))

theorem read_of_refused {cs : List Char} {e : Json.Failure} (hcs : Utf8.decode content = .ok cs)
    (hparse : Json.parse (.ofChars (Lines.unify cs)) = .error e) :
    read path content = .error (refusal path (.ofChars (Lines.unify cs)) e) := by
  rw [read, hcs]
  dsimp only
  rw [hparse]
  cases e <;> rfl

/-- **What escapes is a failure without a fault.** -/
theorem exists_failure_of_escapes (h : Escapes files path) :
    ∃ failure, (load files path).result = .error failure ∧ failure.fault? = none := by
  cases h with
  | @tooLong x h => exact ⟨.unreachable x, by rw [load, h], rfl⟩
  | taxing h hcontent =>
    obtain ⟨cs, hcs, htaxing⟩ := hcontent
    obtain ⟨e, he, hparse⟩ := Json.parse_eq_limit_iff.2 htaxing
    refine ⟨_, (load_of_file h).trans (read_of_refused hcs hparse), ?_⟩
    cases e with
    | malformed => exact he.elim
    | overlong | tooDeep => rfl

/-- **The content of a file ends loading in a declared way** if it does not tax the reader. -/
theorem read_declared (h : ¬ TaxingFile content) : Declared path (read path content) := by
  cases hcs : Utf8.decode content with
  | error fault =>
    have hread : read path content = .error (.unloadable path (.undecodable fault)) := by
      rw [read, hcs]
    rw [hread]
    exact .fault _
  | ok cs =>
    cases hparse : Json.parse (.ofChars (Lines.unify cs)) with
    | ok document =>
      rw [read_of_documented ⟨cs, hcs, hparse⟩]
      cases hdocument : Flag.ofDocument document with
      | error issues => exact .fault _
      | ok fs => exact .flags (Flag.ofDocument_eq_ok_iff.1 hdocument).validName
    | error e =>
      rw [read_of_refused hcs hparse]
      cases e with
      | malformed => exact .fault _
      | overlong o =>
        exact absurd ⟨cs, hcs, Json.parse_eq_limit_iff.1 ⟨.overlong o, trivial, hparse⟩⟩ h
      | tooDeep n =>
        exact absurd ⟨cs, hcs, Json.parse_eq_limit_iff.1 ⟨.tooDeep n, trivial, hparse⟩⟩ h

/-- **Whatever does not escape ends in a declared way.** -/
theorem declared_of_not_escapes (h : ¬ Escapes files path) :
    Declared path (load files path).result := by
  cases hfind : files.find? path with
  | error x => exact absurd (.tooLong hfind) h
  | ok entry =>
    cases entry with
    | none =>
      rw [load, hfind]
      exact .flags (List.forall_mem_nil _)
    | some entry =>
      cases entry with
      | directory =>
        rw [load, hfind]
        exact .fault _
      | file content =>
        rw [load_of_file hfind]
        exact read_declared fun hcontent => h (.taxing hfind hcontent)

/-! ## Checking a file -/

/-- What comes of the command that checks a file. -/
def checking (settings : Settings) (files : FileTree) (path : Path) (level : Option Int)
    (version : Option Text) : Outcome :=
  .ofConsole ((Command.check path level version).run settings files)

/-- **A command line that checks the file at a path.** -/
def Checks (environment : List (Text × Text)) (files : FileTree) (arguments : List Text)
    (path : Path) : Prop :=
  ∃ l settings level version, CommandLine.parse arguments = .ok l ∧
    l.settings environment = .ok settings ∧
    Command.parse files l.name l.arguments = .ok (.check path level version)

/-- **A clean end**: nothing is printed but the fault, which names the path. -/
def CleanEnd (path : Path) (o : Outcome) : Prop :=
  ∃ reason : Unloadable, o = ⟨[], .report (Fault.unloadable path.toText reason.message).message⟩

variable {environment : List (Text × Text)} {arguments : List Text}

/-- A command line that checks a file is carried out by checking it. -/
theorem Checks.run (h : Checks environment files arguments path) : ∃ settings level version,
    CommandLine.run environment files arguments = checking settings files path level version := by
  obtain ⟨l, settings, level, version, hl, hsettings, hcommand⟩ := h
  refine ⟨settings, level, version, ?_⟩
  rw [CommandLine.run, hl]
  dsimp only
  rw [hsettings]
  dsimp only
  rw [hcommand]
  rfl

/-- A fault is reported. -/
theorem Checks.run_of_unloadable {p : Path} {reason : Unloadable}
    (hchecks : Checks environment files arguments path)
    (h : (load files path).result = .error (.unloadable p reason)) :
    CommandLine.run environment files arguments
      = ⟨[], .report (Fault.unloadable p.toText reason.message).message⟩ := by
  obtain ⟨settings, level, version, hrun⟩ := hchecks.run
  rw [hrun, checking, Command.run, Command.runCheck, Command.seeded, h]
  rfl

/-- A failure without a fault breaks the command down. -/
theorem Checks.run_of_escaping (hchecks : Checks environment files arguments path)
    (h : (load files path).result = .error failure) (hfault : failure.fault? = none) :
    ∃ b, CommandLine.run environment files arguments = ⟨[], .breakdown b⟩ := by
  obtain ⟨settings, level, version, hrun⟩ := hchecks.run
  rw [hrun, checking, Command.run, Command.runCheck, Command.seeded, h]
  cases failure with
  | unloadable => cases hfault
  | overlong o => exact ⟨_, rfl⟩
  | tooDeep n => exact ⟨_, rfl⟩
  | unreachable x => exact ⟨_, rfl⟩

/-- **Loading ends in a declared way just if nothing escapes**: then it gives flags with valid names
or fails with a fault that names the path, and otherwise it does neither.  When no flags are loaded,
every command line that checks the file has a clean end just in the same case. -/
theorem load_declared_iff (files : FileTree) (path : Path) :
    (Declared path (load files path).result ↔ ¬ Escapes files path) ∧
    ((load files path).result.isOk = false → ∀ environment arguments,
      Checks environment files arguments path →
        (CleanEnd path (CommandLine.run environment files arguments) ↔ ¬ Escapes files path)) := by
  refine ⟨⟨fun hdeclared hescapes => ?_, declared_of_not_escapes⟩,
    fun hfailed environment arguments hchecks => ⟨fun hclean hescapes => ?_, fun h => ?_⟩⟩
  · obtain ⟨failure, hresult, hfault⟩ := exists_failure_of_escapes hescapes
    rw [hresult] at hdeclared
    cases hdeclared
    cases hfault
  · obtain ⟨failure, hresult, hfault⟩ := exists_failure_of_escapes hescapes
    obtain ⟨b, hbreakdown⟩ := hchecks.run_of_escaping hresult hfault
    obtain ⟨reason, hreport⟩ := hclean
    cases hbreakdown.symm.trans hreport
  · have hdeclared := declared_of_not_escapes h
    cases hresult : (load files path).result with
    | ok => rw [hresult] at hfailed; cases hfailed
    | error failure =>
      rw [hresult] at hdeclared
      cases hdeclared with
      | fault reason => exact ⟨reason, hchecks.run_of_unloadable hresult⟩

/-! ## A file that is no text, and one of too many digits -/

/-- A file whose octet is no UTF-8. -/
def brokenFiles : FileTree := [(.ofText "f.json", .file [0xFF])]

theorem not_escapes_broken : ¬ Escapes brokenFiles (.ofText "f.json") := by
  have hfind : brokenFiles.find? (.ofText "f.json") = .ok (some (.file [0xFF])) := rfl
  intro h
  cases h with
  | tooLong h => cases hfind.symm.trans h
  | taxing h hcontent =>
    cases hfind.symm.trans h
    obtain ⟨cs, hcs, -⟩ := hcontent
    have hdecode : (Utf8.decode [0xFF]).isOk = false := by decide +kernel
    rw [hcs] at hdecode
    cases hdecode

theorem load_declared_broken :
    Declared (.ofText "f.json") (load brokenFiles (.ofText "f.json")).result ∧
    CleanEnd (.ofText "f.json") (CommandLine.run [] brokenFiles ["check", "f.json"]) := by
  obtain ⟨hdeclared, hclean⟩ := load_declared_iff brokenFiles (.ofText "f.json")
  have hfailed : (load brokenFiles (.ofText "f.json")).result.isOk = false := by decide +kernel
  have hchecks : Checks [] brokenFiles ["check", "f.json"] (.ofText "f.json") :=
    ⟨⟨none, .check, ["f.json"]⟩, _, none, none, rfl, rfl, rfl⟩
  exact ⟨hdeclared.2 not_escapes_broken, (hclean hfailed _ _ hchecks).2 not_escapes_broken⟩

/-- Digits, one more than are converted. -/
def manyDigits : List Char := List.replicate (Numeral.digitLimit + 1) '1'

/-- A file of them. -/
def digitsFiles : FileTree := [(.ofText "f.json", .file (Utf8.encode manyDigits))]

/-- **A file that escapes**: its digits are too many, which is no fault that names the path, and
checking it breaks down. -/
theorem load_undeclared_digits :
    (load digitsFiles (.ofText "f.json")).result
      = .error (.overlong ⟨Numeral.digitLimit + 1⟩) ∧
    ¬ Declared (.ofText "f.json") (load digitsFiles (.ofText "f.json")).result ∧
    ∃ b, CommandLine.run [] digitsFiles ["check", "f.json"] = ⟨[], .breakdown b⟩ := by
  have hdigits : Json.DigitChars manyDigits := by
    intro c hc
    rw [List.eq_of_mem_replicate hc]
    decide
  have hlength : (Text.ofChars manyDigits).length = Numeral.digitLimit + 1 := by
    rw [Text.ofChars, List.length_map, manyDigits, List.length_replicate]
  have hwhole : Json.Whole (.ofChars manyDigits) := by
    refine hdigits.whole ?_ ?_
    · exact List.cons_ne_nil '1' (List.replicate Numeral.digitLimit '1')
    · exact fun h => absurd (Option.some.inj h) (by decide)
  have hunify : Lines.unify manyDigits = manyDigits :=
    Lines.unify_eq_self fun h => absurd (hdigits _ h) (by decide)
  have hparse : Json.parse (.ofChars (Lines.unify manyDigits))
      = .error (.overlong ⟨Numeral.digitLimit + 1⟩) := by
    rw [hunify, Json.parse_whole hwhole (by rw [hlength]; exact Nat.lt_succ_self _), hlength]
  have hresult : (load digitsFiles (.ofText "f.json")).result
      = .error (.overlong ⟨Numeral.digitLimit + 1⟩) :=
    (load_of_file rfl).trans (read_of_refused (Utf8.decodeFrom_encode manyDigits 0) hparse)
  have hchecks : Checks [] digitsFiles ["check", "f.json"] (.ofText "f.json") :=
    ⟨⟨none, .check, ["f.json"]⟩, _, none, none, rfl, rfl, rfl⟩
  refine ⟨hresult, ?_, hchecks.run_of_escaping hresult rfl⟩
  rw [hresult]
  intro hdeclared
  cases hdeclared

end Loading

end FeatureFlags

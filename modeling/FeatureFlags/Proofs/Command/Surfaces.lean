import FeatureFlags.Proofs.Command.Checking
import FeatureFlags.Proofs.Flag.Persistence
import FeatureFlags.Proofs.Panel.Queries

/-!
# Proofs/Command/Surfaces — the command line and the panel agree on eligibility

Checking a file and asking a panel for a flag of the same file, under the same settings and for the
same level and version, show one eligibility (`check_agrees_with_read`).  The one exception is the
empty version: the panel takes it for a version, and the command line for none
(`check_empty_version`).
-/

namespace FeatureFlags

open Switchboard Panel Command Percent

namespace Loading

/-- Flags that are loaded have valid names. -/
theorem Gives.validName {files : FileTree} {path : Path} {fs : List Flag}
    (h : Gives files path fs) : ∀ f ∈ fs, Flag.validName f.name := by
  cases h with
  | nothing => exact List.forall_mem_nil _
  | listed _ _ hfs => exact hfs.validName

end Loading

/-- **A file of flags that can be checked** under settings: they are those of the environment, and
the file is named by an operand, is there, and gives the flags. -/
structure Checkable (environment : List (Text × Text)) (settings : Settings) (files : FileTree)
    (file : Text) (flags : List Flag) : Prop where
  settings : Settings.make environment [] = .ok settings
  operand : Arguments.isOption file = false
  found : Command.file files file = .ok (.ofText file)
  loaded : (Loading.load files (.ofText file)).result = .ok flags

variable {environment : List (Text × Text)} {settings : Settings} {files : FileTree} {file : Text}
variable {flags before after : List Flag} {f g : Flag} {level : Option Nat} {version : Option Text}

/-- The level that counts: the one that is given, or that of the host. -/
def levelFor (settings : Settings) (level : Option Nat) : Option Int :=
  level.map Int.ofNat <|> hostLevel settings

/-- The version that counts on the command line: an empty one does not. -/
def versionChecked (settings : Settings) (version : Option Text) : Option Text :=
  version.filter (!·.isEmpty) <|> settings.hostVersion

theorem versionChecked_of_ne (h : version ≠ some []) :
    versionChecked settings version = (version <|> settings.hostVersion) := by
  rcases version with _ | _ | _
  · rfl
  · exact absurd rfl h
  · rfl

/-- **The command line shows the first flags**, each with the eligibility of its name. -/
def Displays (settings : Settings) (flags shown : List Flag) (level : Option Nat)
    (version : Option Text) (e : Text → Eligibility) (o : Outcome) : Prop :=
  Console.printed (heading flags (levelFor settings level) (versionChecked settings version)
    ++ shown.flatMap fun f => linesOf f (e f.name)) <+: o.output

/-- **The panel answers for a name** with a response, in whatever way the name, the level and the
version are spelled. -/
def Replies (settings : Settings) (flags : List Flag) (name : Text) (level : Option Nat)
    (version : Option Text) (response : Response) : Prop :=
  ∀ s body x y z, s.roster = flags → Spells x name → Option.Rel Fills y (level.map Text.ofNat) →
    Option.Rel Fills z version →
    outcome (respond settings (askingFor x y z body)) s = .ok response

/-- **What the command line shows of the first flags** is the eligibility of their names. -/
theorem displays_checkLine {shown rest : List Flag}
    (hcheck : Checkable environment settings files file flags) (hflags : flags = shown ++ rest)
    (hshown : shown ≠ []) (hshort : ∀ n ∈ level, Numeral.Short n)
    (hnames : ∀ h ∈ shown, h.name.Encodable)
    (hanswers : ∀ h ∈ shown, Answers (levelFor settings level) h)
    (hversion : ∀ t ∈ versionChecked settings version, t.Encodable) :
    Displays settings flags shown level version
      (Roster.eligibility flags (levelFor settings level) (versionChecked settings version))
      (CommandLine.run environment files (checkLine file level version)) := by
  subst hflags
  exact printed_prefix_checkLine hcheck.settings hcheck.operand hcheck.found hcheck.loaded hshown
    hshort rfl rfl hversion hnames hanswers

/-- **What the panel shows of a flag** is the eligibility of its name. -/
theorem replies_rowOf (hg : Roster.get? flags g.name = some g) (hne : g.name ≠ [])
    (hslash : .scalar '/' ∉ g.name) (hrules : ∀ t ∈ g.texts, t.Encodable)
    (hshort : ∀ n ∈ level, Numeral.Short n) (hanswers : Answers (levelFor settings level) g) :
    Replies settings flags g.name level version (.of 200 (rowOf g (Roster.eligibility flags
      (levelFor settings level) (version <|> settings.hostVersion) g.name))) := by
  intro s body x y z hs hx hy hz
  refine outcome_respond_askingFor hx hy hz hne hslash hshort (hs ▸ hg) ⟨_, rfl, ?_⟩
    (send_rowOf hrules _)
  rw [Roster.eligibility_of_get? hg]
  exact Condition.eligible_eligibility hanswers

/-- **The command line and the panel agree on eligibility** for every flag that can be shown and
asked for.  What both show of a level is the same, and what they show of a version is the same
unless it is the empty one.  A level of too many digits is refused by both. -/
theorem check_agrees_with_read (hcheck : Checkable environment settings files file flags)
    (hflags : flags = before ++ f :: after) (hg : Roster.get? flags f.name = some g)
    (hslash : .scalar '/' ∉ f.name) (hrules : ∀ t ∈ g.texts, t.Encodable)
    (hnames : ∀ h ∈ before ++ [f], h.name.Encodable)
    (hanswers : ∀ h ∈ before ++ [f], Answers (levelFor settings level) h)
    (hversion : ∀ t ∈ versionChecked settings version, t.Encodable) :
    ((∀ n ∈ level, Numeral.Short n) → ∃ e₁ e₂ : Text → Eligibility,
      Displays settings flags (before ++ [f]) level version e₁
        (CommandLine.run environment files (checkLine file level version)) ∧
      Replies settings flags f.name level version (.of 200 (rowOf g (e₂ f.name))) ∧
      (∀ name, (e₁ name).level = (e₂ name).level) ∧ (version ≠ some [] → e₁ = e₂)) ∧
    ∀ n, level = some n → ¬ Numeral.Short n →
      CommandLine.run environment files (checkLine file level version) = .silent .usage ∧
      Replies settings flags f.name level version (.refusal [oversizedLevel (Text.ofNat n)]) := by
  have hname : g.name = f.name := Roster.name_of_get? hg
  have hne : g.name ≠ [] := by
    have hvalid : Flag.validName g.name :=
      (Loading.load_eq_ok_iff.1 hcheck.loaded).validName g (Roster.mem_of_get? hg)
    intro hnil
    rw [hnil] at hvalid
    cases hvalid
  have hsplit : flags = (before ++ [f]) ++ after := by
    rw [hflags, List.append_assoc]
    rfl
  have hf : f ∈ before ++ [f] := List.mem_append_right before List.mem_cons_self
  have hmem : g ∈ before ++ [f] := by
    obtain ⟨g', hg', hfind⟩ := get?_append_of_mem hf after
    rw [← hsplit, hg] at hfind
    exact Option.some.inj hfind ▸ hg'
  rw [← hname] at hg hslash ⊢
  refine ⟨fun hshort => ⟨_, _, displays_checkLine hcheck hsplit (List.ne_nil_of_mem hf) hshort
    hnames hanswers hversion, replies_rowOf hg hne hslash hrules hshort (hanswers g hmem),
    fun _ => rfl, fun hversion => by rw [versionChecked_of_ne hversion]⟩, ?_⟩
  rintro n rfl hn
  refine ⟨?_, fun s body x y z _ hx hy hz => outcome_respond_oversized hx hy hz hne hslash hn⟩
  exact CommandLine.run_checkLine_of_error hcheck.settings
    (parse_checkLine_of_not_short hcheck.operand hn)

/-! ## Two flags of one name, and an empty version -/

/-- A flag for hosts of version 1 at least, and one of the same name for all hosts. -/
def gatedTwins : List Flag := [⟨"f", true, ⟨[], [">=1.0.0"]⟩⟩, ⟨"f", false, .unrestricted⟩]

/-- A file of them. -/
def gatedFiles : FileTree :=
  [(.ofText "f.json", .file (Utf8.encode (Flag.listToJson gatedTwins).render))]

/-- An environment that tells the version of the host. -/
def versionTwo : List (Text × Text) := [("HOST_VERSION", "2.0.0")]

/-- The settings that it gives. -/
def hostOfVersionTwo : Settings :=
  ⟨"FlagGate", "0.1.0", false, .info, false, .ofText "flag_cache.json", none, some "2.0.0",
    .ofRatio false 1 1⟩

theorem checkable_gated :
    Checkable versionTwo hostOfVersionTwo gatedFiles "f.json" gatedTwins where
  settings := by
    rfl
  operand := by decide
  found := rfl
  loaded := by
    have hfs : ∀ f ∈ gatedTwins, f.Keepable := List.forall_mem_cons.2
      ⟨.of_chars (by decide) (by decide),
        List.forall_mem_singleton.2 (.of_chars (by decide) (by decide))⟩
    exact (load_persisted hfs .bare rfl).1

/-- The flag that counts. -/
def gatedFlag : Flag := ⟨"f", true, ⟨[], [">=1.0.0"]⟩⟩

theorem get?_gatedTwins : Roster.get? gatedTwins "f" = some gatedFlag := rfl

theorem answers_gatedTwins (level : Option Int) : ∀ h ∈ gatedTwins, Answers level h := by
  intro h hh n _
  have hlevels : ∀ h ∈ gatedTwins, h.condition.levels = [] := by decide
  rw [hlevels h hh]
  rfl

theorem check_agrees_with_read_twin : ∃ e₁ e₂ : Text → Eligibility,
    Displays hostOfVersionTwo gatedTwins gatedTwins (some 30) (some "0.9") e₁ (CommandLine.run
      versionTwo gatedFiles ["check", "f.json", "--level", "30", "--version", "0.9"]) ∧
    Replies hostOfVersionTwo gatedTwins "f" (some 30) (some "0.9")
      (.of 200 (rowOf gatedFlag (e₂ "f"))) ∧ e₁ = e₂ := by
  have hflags : gatedTwins = [gatedFlag] ++ ⟨"f", false, .unrestricted⟩ :: [] := rfl
  have hversion : ∀ t ∈ versionChecked hostOfVersionTwo (some "0.9"), t.Encodable := by decide
  obtain ⟨e₁, e₂, hdisplays, hreplies, -, hagree⟩ := (check_agrees_with_read checkable_gated hflags
    get?_gatedTwins (by decide) (by decide) (by decide)
    (answers_gatedTwins (levelFor hostOfVersionTwo (some 30))) hversion).1 (by decide)
  exact ⟨e₁, e₂, hdisplays, hreplies, hagree (by decide)⟩

/-- **An empty version**: the command line answers for the version of the host, which is admitted,
and the panel for the empty one, which is not. -/
theorem check_empty_version : ∃ e₁ e₂ : Text → Eligibility,
    Displays hostOfVersionTwo gatedTwins gatedTwins (some 10) (some "") e₁ (CommandLine.run
      versionTwo gatedFiles ["check", "f.json", "--level", "10", "--version", ""]) ∧
    Replies hostOfVersionTwo gatedTwins "f" (some 10) (some "")
      (.of 200 (rowOf gatedFlag (e₂ "f"))) ∧
    e₁ "f" = ⟨some true, some true⟩ ∧ e₂ "f" = ⟨some true, some false⟩ := by
  have hsplit : gatedTwins = gatedTwins ++ [] := (List.append_nil _).symm
  have hversion : ∀ t ∈ versionChecked hostOfVersionTwo (some ""), t.Encodable := by decide
  have hshort : ∀ n ∈ some 10, Numeral.Short n := by decide
  exact ⟨_, _, displays_checkLine checkable_gated hsplit (by decide) hshort (by decide)
    (answers_gatedTwins (levelFor hostOfVersionTwo (some 10))) hversion,
    replies_rowOf get?_gatedTwins (by decide) (by decide) (by decide) hshort
      (answers_gatedTwins _ gatedFlag List.mem_cons_self), by decide +kernel, by decide +kernel⟩

end FeatureFlags

import FeatureFlags.Proofs.Command.Arguments
import FeatureFlags.Proofs.Command.Printing
import FeatureFlags.Proofs.Panel.Addresses

/-!
# Proofs/Command/Checking — what checking a file prints

A file may be checked for a level and a version (`checkLine`).  The output opens with a heading and
then shows one flag after the other, each with the eligibility of its name, which is that of the
first flag of this name (`printed_prefix_checkLine`).  An empty version counts as none
(`run_checkLine_empty`).
-/

namespace FeatureFlags

open Switchboard Panel

variable {level : Option Int} {version : Option Text} {f g : Flag} {s : Switchboard}

namespace Command

open Console

variable {settings : Settings} {files : FileTree} {path : Path} {shown rest flags : List Flag}

/-! ## Lines -/

/-- **The lines that show a flag.** -/
def linesOf (f : Flag) (e : Eligibility) : List Text :=
  [(if f.enabled then "✓ " else "○ ") ++ f.name,
    "    enabled:   " ++ yesNo (some f.enabled),
    "    levels:    " ++ rules f.condition.levels,
    "    versions:  " ++ rules f.condition.versions,
    "    supported: level=" ++ yesNo e.level ++ " version=" ++ yesNo e.version]

/-- **The words that are shown** for a truth value: `yes` and `no`, and `-` if there is none. -/
theorem yesNo_eq_iff (b : Option Bool) : (yesNo b = "yes" ↔ b = some true) ∧
    (yesNo b = "no" ↔ b = some false) ∧ (yesNo b = "-" ↔ b = none) := by
  rcases b with _ | _ | _ <;> decide

/-- **The lines of a flag tell its eligibility.** -/
theorem linesOf_inj {e e' : Eligibility} : linesOf f e = linesOf f e' ↔ e = e' := by
  have hwords : ∀ a b c d : Option Bool,
      ("    supported: level=" ++ yesNo a ++ " version=" ++ yesNo b : Text)
        = "    supported: level=" ++ yesNo c ++ " version=" ++ yesNo d → a = c ∧ b = d := by
    rintro (_ | _ | _) (_ | _ | _) (_ | _ | _) (_ | _ | _) h <;>
      first | exact ⟨rfl, rfl⟩ | exact absurd h (by decide)
  refine ⟨fun h => ?_, fun h => h ▸ rfl⟩
  obtain ⟨level, version⟩ := e
  obtain ⟨level', version'⟩ := e'
  have hlast := congrArg List.getLast? h
  obtain ⟨rfl, rfl⟩ := hwords _ _ _ _ (Option.some.inj hlast)
  rfl

/-- The lines before the first flag. -/
def heading (flags : List Flag) (level : Option Int) (version : Option Text) : List Text :=
  ["\nFeatures (" ++ Text.ofNat flags.length ++ "), level=" ++ orNone (level.map Text.ofInt)
    ++ ", version=" ++ orNone version, List.replicate 70 (.scalar '-')]

theorem encodable_yesNo (b : Option Bool) : (yesNo b).Encodable := by
  rcases b with _ | _ | _ <;> exact Text.encodable_ofString _

theorem encodable_rules (rs : List Text) : (rules rs).Encodable := by
  rw [rules]
  split
  · exact Text.encodable_ofString _
  · exact Text.encodable_quotedList rs

theorem encodable_orNone {t : Option Text} (h : ∀ u ∈ t, u.Encodable) : (orNone t).Encodable := by
  cases t with
  | none => exact Text.encodable_ofString _
  | some u => exact h u rfl

/-- **A flag is shown in its lines**, if its name can be encoded. -/
theorem prints_showFlag (hname : f.name.Encodable) (e : Eligibility) :
    Prints (showFlag f e) () (linesOf f e) := by
  have hsupported : ("    supported: level=" ++ yesNo e.level ++ " version=" ++ yesNo e.version
      : Text).Encodable :=
    (((Text.encodable_ofString _).append (encodable_yesNo _)).append
      (Text.encodable_ofString _)).append (encodable_yesNo _)
  refine prints_line_bind ((Text.encodable_ofString _).append hname) ?_
  refine prints_line_bind ((Text.encodable_ofString _).append (encodable_yesNo _)) ?_
  refine prints_line_bind ((Text.encodable_ofString _).append (encodable_rules _)) ?_
  refine prints_line_bind ((Text.encodable_ofString _).append (encodable_rules _)) ?_
  exact prints_line hsupported

theorem opens_showFlag (f : Flag) (e : Eligibility) : Opens (showFlag f e) [] :=
  (opens_line _).bind fun _ => (opens_line _).bind fun _ => (opens_line _).bind fun _ =>
    (opens_line _).bind fun _ => opens_line _

theorem encodable_heading (flags : List Flag) (level : Option Int)
    (hversion : ∀ t ∈ version, t.Encodable) : ∀ t ∈ heading flags level version, t.Encodable := by
  have hlevel : (orNone (level.map Text.ofInt)).Encodable := by
    refine encodable_orNone fun t ht => ?_
    obtain ⟨n, -, rfl⟩ := Option.map_eq_some_iff.1 ht
    exact Text.encodable_ofInt n
  refine List.forall_mem_cons.2 ⟨?_, List.forall_mem_singleton.2 fun c hc => ?_⟩
  · exact (((((Text.encodable_ofString _).append (Text.encodable_ofNat _)).append
      (Text.encodable_ofString _)).append hlevel).append (Text.encodable_ofString _)).append
        (encodable_orNone hversion)
  · rw [List.eq_of_mem_replicate hc]
    rfl

/-! ## Showing the flags -/

theorem ask_eq_pure {α : Type} {x : Action α} {a : α} (h : outcome x s = .ok a) :
    ask s x = pure a := by
  have hrun : (x.run s).1 = .ok a := h
  rw [ask, hrun]

theorem opens_ask {α : Type} (s : Switchboard) (x : Action α) : Opens (ask s x) [] := by
  rw [ask]
  split <;> exact opens_of_run fun _ => rfl

/-- **A flag's level rules leave an answer**, if a level counts. -/
def Answers (level : Option Int) (f : Flag) : Prop :=
  ∀ n ∈ level, (LevelRule.evaluateAny f.condition.levels n).answer.isOk

/-- The first flag of a name is among the first flags, if one of that name is. -/
theorem get?_append_of_mem (h : f ∈ shown) (rest : List Flag) :
    ∃ g ∈ shown, Roster.get? (shown ++ rest) f.name = some g := by
  obtain ⟨g, hg⟩ := Roster.exists_get?_of_mem h
  refine ⟨g, Roster.mem_of_get? hg, ?_⟩
  rw [Roster.get?, List.find?_append, ← Roster.get?, hg]
  rfl

/-- **The first flags are shown, each with the eligibility of its name**, whatever comes of the
others. -/
theorem opens_runCheck (hload : (Loading.load files path).result = .ok (shown ++ rest))
    (hshown : shown ≠ []) {level' : Option Int} {version' : Option Text}
    (hlevel : level = (level' <|> hostLevel settings))
    (hversion : version = (version'.filter (!·.isEmpty) <|> settings.hostVersion))
    (hencodable : ∀ t ∈ version, t.Encodable) (hnames : ∀ f ∈ shown, f.name.Encodable)
    (hanswers : ∀ f ∈ shown, Answers level f) :
    Opens (runCheck settings files path level' version')
      (heading (shown ++ rest) level version ++ shown.flatMap fun f =>
        linesOf f (Roster.eligibility (shown ++ rest) level version f.name)) := by
  have hseeded : seeded files (some path) = pure (.ofRoster (shown ++ rest)) := by
    rw [seeded, hload]
  have hflags : ¬ (ofRoster (shown ++ rest)).roster.isEmpty := fun hempty =>
    hshown (List.append_eq_nil_iff.1 (List.isEmpty_iff.1 hempty)).1
  obtain ⟨hfirst, hsecond⟩ := List.forall_mem_cons.1
    (encodable_heading (shown ++ rest) level hencodable)
  rw [runCheck, hseeded, pure_bind]
  dsimp only
  rw [if_neg hflags, ← hlevel, ← hversion]
  refine opens_line_bind hfirst (opens_line_bind (hsecond _ List.mem_cons_self) ?_)
  refine (opens_forM_append (fun f hf => ?_) (fun f => ?_) rest).bind fun _ => opens_line _
  · obtain ⟨g, hg, hfind⟩ := get?_append_of_mem hf rest
    have he : outcome (eligibility f.name level version) (ofRoster (shown ++ rest))
        = .ok (Roster.eligibility (shown ++ rest) level version f.name) := by
      rw [Roster.eligibility_of_get? hfind]
      exact outcome_eligibility hfind (Condition.eligible_eligibility (hanswers g hg))
    rw [ask_eq_pure he, pure_bind]
    exact prints_showFlag (hnames f hf) _
  · exact (opens_ask _ _).bind fun e => opens_showFlag f e

end Command

open Command

variable {environment : List (Text × Text)} {settings : Settings} {files : FileTree} {file : Text}
variable {path : Path} {shown rest : List Flag} {given : Option Nat} {asked : Option Text}

theorem Outcome.output_ofConsole (c : Console (Option Service)) :
    (Outcome.ofConsole c).output = (c.run []).2 := by
  rw [ofConsole]
  rcases c.run [] with ⟨(⟨⟩ | ⟨⟩) | _, _⟩ <;> rfl

/-- **What checking a file prints**: a heading, and one flag after the other. -/
theorem printed_prefix_checkLine (hsettings : Settings.make environment [] = .ok settings)
    (hfile : Arguments.isOption file = false) (hpath : Command.file files file = .ok path)
    (hload : (Loading.load files path).result = .ok (shown ++ rest)) (hshown : shown ≠ [])
    (hgiven : ∀ n ∈ given, Numeral.Short n)
    (hlevel : level = (given.map Int.ofNat <|> hostLevel settings))
    (hversion : version = (asked.filter (!·.isEmpty) <|> settings.hostVersion))
    (hencodable : ∀ t ∈ version, t.Encodable) (hnames : ∀ f ∈ shown, f.name.Encodable)
    (hanswers : ∀ f ∈ shown, Answers level f) :
    Console.printed (heading (shown ++ rest) level version ++ shown.flatMap fun f =>
        linesOf f (Roster.eligibility (shown ++ rest) level version f.name))
      <+: (CommandLine.run environment files (checkLine file given asked)).output := by
  rw [CommandLine.run_checkLine hsettings (parse_checkLine hfile hpath hgiven)]
  have hopens := (opens_runCheck hload hshown hlevel hversion hencodable hnames hanswers).bind
    (k := fun _ => (pure none : Console (Option Service)))
    fun _ => Console.opens_of_run fun _ => rfl
  rw [Outcome.output_ofConsole]
  exact hopens []

/-- **An empty version counts as none**: checking a file for it is checking the file for no
version. -/
theorem run_checkLine_empty (hsettings : Settings.make environment [] = .ok settings)
    (hfile : Arguments.isOption file = false) :
    CommandLine.run environment files (checkLine file given (some []))
      = CommandLine.run environment files (checkLine file given none) := by
  have hempty : Command.parse files .check (file :: checkOptions given (some [])) = _ :=
    parse_check hfile
  have hnone : Command.parse files .check (file :: checkOptions given none) = _ :=
    parse_check hfile
  cases hread : Command.optional Command.integer (given.map Text.ofNat) with
  | error e =>
    rw [hread] at hempty hnone
    rw [CommandLine.run_checkLine_of_error hsettings hempty,
      CommandLine.run_checkLine_of_error hsettings hnone]
  | ok n =>
    rw [hread] at hempty hnone
    cases hpath : Command.file files file with
    | error e =>
      rw [hpath] at hempty hnone
      rw [CommandLine.run_checkLine_of_error hsettings hempty,
        CommandLine.run_checkLine_of_error hsettings hnone]
    | ok path =>
      rw [hpath] at hempty hnone
      rw [CommandLine.run_checkLine hsettings hempty, CommandLine.run_checkLine hsettings hnone]
      rfl

end FeatureFlags

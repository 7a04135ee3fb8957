import FeatureFlags.Proofs.Switchboard.Elementary
import FeatureFlags.Proofs.Switchboard.Performing

/-!
# Proofs/Switchboard/Flags — who changes the flags, and who only reads them

Only changes of the flags change them.  No elementary change touches the roster
(`elementary_sameFlags`), so callbacks whose scripts contain no change leave it as it is, however
deep they are nested, and a change makes of the roster just what it is meant to
(`roster_performAll`).

What is asked about a name is answered from the first flag of that name alone
(`outcome_query_congr`).
-/

namespace FeatureFlags

/-- The name a query is about; other queries are about all flags. -/
def Query.name? : Query → Option Text
  | .flag name => some name
  | .stateOr name _ => some name
  | .isEnabled name => some name
  | .contains name => some name
  | .levelRules name => some name
  | .versionRules name => some name
  | .supportsLevel name _ => some name
  | .supportsVersion name _ => some name
  | .supports name _ _ => some name
  | _ => none

namespace Switchboard

variable {react : React} {s s' : Switchboard} {α : Type}

/-! ## Who leaves the flags as they are -/

/-- **The flags are as they were.** -/
def SameFlags (s s' : Switchboard) : Prop := s'.roster = s.roster

instance : Std.Refl SameFlags := ⟨fun _ => rfl⟩

instance : Trans SameFlags SameFlags SameFlags := ⟨fun h h' => h'.trans h⟩

theorem Keeps.sameFlags {a : Action α} (h : Unnoticed a) : Keeps SameFlags a :=
  fun s => (h s).roster

theorem elementary_sameFlags : Elementary SameFlags where
  aside h := h.roster
  enroll _ _ := rfl
  change _ _ _ := rfl

/-! ## What a change makes of the flags -/

/-- **A change makes of the flags what it is meant to**, if callbacks leave them alone. -/
theorem roster_change (h : ∀ l value, Keeps SameFlags (react l value)) (c : Change)
    (s : Switchboard) : (after (change react c) s).roster = c.roster s.roster := by
  cases c with
  | save flag => cases flag <;> rfl
  | saveAll flags => cases flags <;> rfl
  | replace flag => cases flag <;> rfl
  | empty => rfl
  | clearAll => rfl
  | update flag =>
    cases flag with
    | error issues => rfl
    | ok f =>
      have hpublish : Keeps SameFlags (publish react f.name f.enabled >>= fun _ =>
          note .info ("Updated feature " ++ Record.named f.name ++ " (enabled="
            ++ Record.truth f.enabled ++ ")")) :=
        .of_bind (elementary_sameFlags.publish h _ _) fun _ => elementary_sameFlags.note _ _
      exact hpublish _

/-- **Performing a change**, where no script comes to another one. -/
theorem perform_change (c : Change) (hs : s.within Operation.keepsFlags) :
    (after (perform (.change c)) s).roster = c.roster s.roster ∧
      (after (perform (.change c)) s).within Operation.keepsFlags := by
  have hscript : Script.within Operation.keepsFlags (Operation.change c).script := rfl
  obtain ⟨react, hreact, hrun, hwithin⟩ :=
    performs_perform (p := Operation.keepsFlags) (fun _ _ h => h) hscript hs
  refine ⟨?_, hwithin⟩
  have hafter : after (perform (.change c)) s = after (execute react (.change c)) s :=
    congrArg Prod.snd hrun
  have hchange : after (execute react (.change c)) s = after (change react c) s := by
    rw [execute, after, run_bind, after]
    rcases (change react c).run s with ⟨_ | _, _⟩ <;> rfl
  rw [hafter, hchange]
  exact roster_change (elementary_sameFlags.lawful hreact) c s

/-- **Changes performed one after the other** make of the flags what each is meant to. -/
theorem roster_performAll (cs : List Change) (hs : s.within Operation.keepsFlags) :
    (performAll (cs.map .change) s).roster = cs.foldl (fun r c => c.roster r) s.roster := by
  induction cs generalizing s with
  | nil => rfl
  | cons c cs ih =>
    obtain ⟨hroster, hwithin⟩ := perform_change c hs
    rw [List.foldl_cons, ← hroster]
    exact ih hwithin

/-! ## What is answered about a name -/

/-- **What an action comes to**: its answer, or why it failed. -/
def outcome (a : Action α) (s : Switchboard) : Except Failure α := (a.run s).1

theorem outcome_bind {β : Type} (x : Action α) (f : α → Action β) (s : Switchboard) :
    outcome (x >>= f) s = match outcome x s with
      | .ok a => outcome (f a) (after x s)
      | .error e => .error e := by
  rw [outcome, run_bind, outcome, after]
  rcases x.run s with ⟨_ | _, _⟩ <;> rfl

theorem outcome_get_bind (k : Switchboard → Action α) (s : Switchboard) :
    outcome (get >>= k) s = outcome (k s) s := rfl

theorem outcome_forM_note {β : Type} (severity : Severity) (message : β → Text) (bs : List β)
    (s : Switchboard) : outcome (bs.forM fun b => note severity (message b)) s = .ok () := by
  induction bs generalizing s with
  | nil => rfl
  | cons b bs ih => exact ih _

/-- The faults of an evaluation do not touch its answer. -/
theorem outcome_conclude (kind : Text) (v : Verdict) (s : Switchboard) :
    outcome (conclude kind v) s = v.answer.mapError .overlong := by
  rw [conclude, outcome_bind, outcome_forM_note]
  cases v.answer <;> rfl

theorem outcome_supportsLevel (name : Text) (level : Int) (s : Switchboard) :
    outcome (supportsLevel name level) s
      = (LevelRule.evaluateAny (s.roster.levelRules name) level).answer.mapError .overlong :=
  outcome_conclude _ _ s

theorem outcome_supportsVersion (name version : Text) (s : Switchboard) :
    outcome (supportsVersion name version) s
      = (VersionRule.evaluateAny (s.roster.versionRules name) version).answer.mapError .overlong :=
  outcome_conclude _ _ s

theorem roster_supportsLevel (name : Text) (level : Int) (s : Switchboard) :
    (after (supportsLevel name level) s).roster = s.roster :=
  Keeps.sameFlags (unnoticed_supportsLevel name level) s

theorem outcome_supports (name : Text) (level : Int) (version : Text) (s : Switchboard) :
    outcome (supports name level version) s
      = match outcome (supportsLevel name level) s with
        | .ok true => outcome (supportsVersion name version) s
        | .ok false => .ok false
        | .error e => .error e := by
  rw [supports, outcome_bind]
  match outcome (supportsLevel name level) s with
  | .error _ | .ok false => rfl
  | .ok true =>
    change outcome (supportsVersion name version) (after (supportsLevel name level) s) = _
    rw [outcome_supportsVersion, outcome_supportsVersion, roster_supportsLevel]

/-- **What is asked about a name is answered from the first flag of that name**: where it is the
same, the answers are. -/
theorem outcome_query_congr {q : Query} {name : Text} (hq : q.name? = some name)
    (h : s.roster.get? name = s'.roster.get? name) :
    outcome (perform (.query q)) s = outcome (perform (.query q)) s' := by
  have hstate (absent : Bool) : s.roster.stateOr name absent = s'.roster.stateOr name absent := by
    rw [Roster.stateOr, h, Roster.stateOr]
  have hlevels : s.roster.levelRules name = s'.roster.levelRules name := by
    rw [Roster.levelRules, h, Roster.levelRules]
  have hversions : s.roster.versionRules name = s'.roster.versionRules name := by
    rw [Roster.versionRules, h, Roster.versionRules]
  have hlevel (level : Int) :
      outcome (supportsLevel name level) s = outcome (supportsLevel name level) s' := by
    rw [outcome_supportsLevel, hlevels, outcome_supportsLevel]
  have hversion (version : Text) :
      outcome (supportsVersion name version) s = outcome (supportsVersion name version) s' := by
    rw [outcome_supportsVersion, hversions, outcome_supportsVersion]
  change outcome (ask q) s = outcome (ask q) s'
  cases q with
  | all | enabled | disabled | anyEnabled | size => cases hq
  | flag => cases hq; exact congrArg (Except.ok <| Answer.ofOption Answer.flag ·) h
  | contains => cases hq; exact congrArg (Except.ok <| Answer.truth <| Option.isSome ·) h
  | stateOr _ absent => cases hq; exact congrArg (Except.ok <| Answer.truth ·) (hstate absent)
  | isEnabled => cases hq; exact congrArg (Except.ok <| Answer.truth ·) (hstate false)
  | levelRules => cases hq; exact congrArg (Except.ok <| Answer.texts ·) hlevels
  | versionRules => cases hq; exact congrArg (Except.ok <| Answer.texts ·) hversions
  | supportsLevel _ level =>
    cases hq
    rw [ask, outcome_bind, outcome_bind, hlevel]
    rfl
  | supportsVersion _ version =>
    cases hq
    rw [ask, outcome_bind, outcome_bind, hversion]
    rfl
  | supports _ level version =>
    cases hq
    rw [ask, outcome_bind, outcome_bind, outcome_supports, outcome_supports, hlevel, hversion]
    rfl

end Switchboard

end FeatureFlags

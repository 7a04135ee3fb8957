import FeatureFlags.Panel.Respond
import FeatureFlags.Proofs.Switchboard.Flags
import Mathlib.Data.List.Nodup

/-!
# Proofs/Panel/Rows — what a row shows of a flag, and whether it agrees with itself

A row shows the state and the rules of one flag, but whether the host may use it by the rules of the
first flag of that name (`Shows`).  So a row agrees with itself (`Consistent`) just if for this host
the rules of the first flag say what the rules shown say.

When one flag is asked for, replaced or toggled, it is the first of its name, and the row always
agrees with itself.  A list shows all flags of a name, and a flag that is defined stands behind
those of its name.
-/

namespace FeatureFlags

open Switchboard

/-! ## Rows -/

/-- The rows in a document that answers a call. -/
def Call.rows (v : Json) : Call → List Json
  | .list =>
    match v.field? "features" with
    | some (.arr rows) => rows
    | _ => []
  | .create | .read _ | .replace _ | .toggle _ => [v]
  | _ => []

/-- **The rows of a response** to a call; what is refused has none. -/
def Response.rows (c : Call) (response : Response) : List Json :=
  match response.body with
  | .document v => if response.status < 300 then c.rows v else []
  | _ => []

namespace Roster

variable {r : Roster} {f : Flag} {name : Text}

theorem name_of_get? (h : r.get? name = some f) : f.name = name := by
  simpa using List.find?_some h

theorem mem_of_get? (h : r.get? name = some f) : f ∈ r := List.mem_of_find?_eq_some h

/-- A name that a flag has, has a first flag. -/
theorem exists_get?_of_mem (h : f ∈ r) : ∃ g, r.get? f.name = some g := by
  have hsome : (r.get? f.name).isSome := List.find?_isSome.2 ⟨f, h, by simp⟩
  exact Option.isSome_iff_exists.1 hsome

end Roster

namespace Panel

variable {settings : Settings} {r : Request} {c : Call} {response : Response}
variable {s s' : Switchboard} {level : Option Int} {version : Option Text} {f g : Flag} {v : Json}

/-- The level a call is about: that of the host, if none is asked for. -/
def levelOf (settings : Settings) (r : Request) : Call → Option Int
  | .read _ => (r.level.toOption.getD none) <|> hostLevel settings
  | _ => hostLevel settings

/-- The version a call is about. -/
def versionOf (settings : Settings) (r : Request) : Call → Option Text
  | .read _ => r.version <|> settings.hostVersion
  | _ => settings.hostVersion

/-- **A row agrees with itself**: where there is a level, and its level rules leave an answer for
it, the row gives that answer, and likewise for a version. -/
def Consistent (level : Option Int) (version : Option Text) (row : Json) : Prop :=
  ∃ levels versions, row.field? "supported_levels" = some (.texts levels) ∧
    row.field? "supported_versions" = some (.texts versions) ∧
    (∀ n b, level = some n → (LevelRule.evaluateAny levels n).answer = .ok b →
      row.field? "level_supported" = some (.bool b)) ∧
    ∀ t b, version = some t → (VersionRule.evaluateAny versions t).answer = .ok b →
      row.field? "version_supported" = some (.bool b)

/-- **One condition says what another one says**, where that one leaves an answer. -/
def Agree (level : Option Int) (version : Option Text) (own first : Condition) : Prop :=
  (∀ n b, level = some n → (LevelRule.evaluateAny own.levels n).answer = .ok b →
    (LevelRule.evaluateAny first.levels n).answer = .ok b) ∧
  ∀ t b, version = some t → (VersionRule.evaluateAny own.versions t).answer = .ok b →
    (VersionRule.evaluateAny first.versions t).answer = .ok b

theorem agree_refl (level : Option Int) (version : Option Text) (c : Condition) :
    Agree level version c c := ⟨fun _ _ _ h => h, fun _ _ _ h => h⟩

/-- The eligibility that a condition gives. -/
def Eligible (level : Option Int) (version : Option Text) (c : Condition) (e : Eligibility) :
    Prop :=
  level.map (fun n => (LevelRule.evaluateAny c.levels n).answer) = e.level.map .ok ∧
    version.map (fun t => (VersionRule.evaluateAny c.versions t).answer) = e.version.map .ok

/-- The row of a flag. -/
def rowOf (f : Flag) (e : Eligibility) : Json :=
  .obj [("name", .str f.name), ("enabled", .bool f.enabled),
    ("supported_levels", .texts f.condition.levels),
    ("supported_versions", .texts f.condition.versions),
    ("level_supported", .ofOption .bool e.level), ("version_supported", .ofOption .bool e.version)]

/-- **A row shows a flag by the rules of a flag**, which need not be the same one. -/
def Shows (level : Option Int) (version : Option Text) (f g : Flag) (row : Json) : Prop :=
  ∃ e, row = rowOf f e ∧ Eligible level version g.condition e

theorem texts_injective : Function.Injective Json.texts := by
  intro ts ts' h
  exact (List.map_inj_right fun _ _ => Json.str.inj).1 (Json.arr.inj h)

theorem ofOption_bool_eq_iff {o : Option Bool} {b : Bool} :
    Json.ofOption .bool o = .bool b ↔ o = some b := by
  cases o with
  | none => exact iff_of_false nofun nofun
  | some => rw [Json.ofOption, Json.bool.injEq, Option.some.injEq]

/-- An answer that is shown is the one that was given. -/
theorem eq_some_iff_answer {α : Type} {asked : Option α} {answer : α → Except Overlong Bool}
    {shown : Option Bool} (h : asked.map answer = shown.map .ok) {a : α} (ha : asked = some a)
    (b : Bool) : shown = some b ↔ answer a = .ok b := by
  subst ha
  cases shown with
  | none => cases h
  | some b' =>
    have h' : answer a = .ok b' := Option.some.inj h
    rw [h', Option.some.injEq, Except.ok.injEq]

/-- **A row agrees with itself just if the rules it goes by say what the rules it shows say.** -/
theorem consistent_iff_agree (h : Shows level version f g v) :
    Consistent level version v ↔ Agree level version f.condition g.condition := by
  obtain ⟨e, rfl, hlevel, hversion⟩ := h
  have hl (b : Bool) : (rowOf f e).field? "level_supported" = some (.bool b) ↔ e.level = some b :=
    (Option.some.injEq _ _).to_iff.trans ofOption_bool_eq_iff
  have hv (b : Bool) :
      (rowOf f e).field? "version_supported" = some (.bool b) ↔ e.version = some b :=
    (Option.some.injEq _ _).to_iff.trans ofOption_bool_eq_iff
  constructor
  · rintro ⟨levels, versions, hlevels, hversions, hl', hv'⟩
    obtain rfl : f.condition.levels = levels := texts_injective (Option.some.inj hlevels)
    obtain rfl : f.condition.versions = versions := texts_injective (Option.some.inj hversions)
    refine ⟨fun n b hn hb => ?_, fun t b ht hb => ?_⟩
    · exact (eq_some_iff_answer hlevel hn b).1 ((hl b).1 (hl' n b hn hb))
    · exact (eq_some_iff_answer hversion ht b).1 ((hv b).1 (hv' t b ht hb))
  · rintro ⟨hlevels, hversions⟩
    refine ⟨_, _, rfl, rfl, fun n b hn hb => ?_, fun t b ht hb => ?_⟩
    · exact (hl b).2 ((eq_some_iff_answer hlevel hn b).2 (hlevels n b hn hb))
    · exact (hv b).2 ((eq_some_iff_answer hversion ht b).2 (hversions t b ht hb))

/-! ## Making rows -/

/-- What is given is asked about, and the answer is the one that comes. -/
theorem run_ifGiven {α : Type} {asked : Option α} {x : α → Action Bool} {shown : Option Bool}
    {answer : α → Except Overlong Bool} (hx : ∀ a, Keeps SameFlags (x a))
    (hanswer : ∀ a, outcome (x a) s = (answer a).mapError .overlong)
    (h : (ifGiven asked x).run s = (.ok shown, s')) :
    asked.map answer = shown.map .ok ∧ s'.roster = s.roster := by
  cases asked with
  | none =>
    obtain ⟨rfl, rfl⟩ := run_pure_eq_ok h
    exact ⟨rfl, rfl⟩
  | some a =>
    obtain ⟨b, t, hb, h⟩ := run_bind_eq_ok h
    obtain ⟨rfl, rfl⟩ := run_pure_eq_ok h
    refine ⟨?_, (hx a).run hb⟩
    have hok : (answer a).mapError Failure.overlong = .ok b := by rw [← hanswer, outcome, hb]
    cases ha : answer a with
    | error => rw [ha] at hok; cases hok
    | ok => rw [ha] at hok; cases hok; exact congrArg some ha

/-- **The eligibility of a name is what the condition of its first flag gives.** -/
theorem run_eligibility {name : Text} {e : Eligibility} (hg : s.roster.get? name = some g)
    (h : (eligibility name level version).run s = (.ok e, s')) :
    Eligible level version g.condition e ∧ s'.roster = s.roster := by
  obtain ⟨el, t, hl, h⟩ := run_bind_eq_ok h
  obtain ⟨ev, t', hv, h⟩ := run_bind_eq_ok h
  obtain ⟨rfl, rfl⟩ := run_pure_eq_ok h
  have hlevels : s.roster.levelRules name = g.condition.levels := by rw [Roster.levelRules, hg]; rfl
  obtain ⟨hel, ht⟩ : level.map (fun n => (LevelRule.evaluateAny g.condition.levels n).answer)
      = el.map .ok ∧ t.roster = s.roster :=
    run_ifGiven (fun n => .sameFlags (unnoticed_supportsLevel name n))
      (fun n => by rw [outcome_supportsLevel, hlevels]) hl
  have hversions : t.roster.versionRules name = g.condition.versions := by
    rw [ht, Roster.versionRules, hg]
    rfl
  obtain ⟨hev, ht'⟩ : version.map (fun w => (VersionRule.evaluateAny g.condition.versions w).answer)
      = ev.map .ok ∧ t'.roster = t.roster :=
    run_ifGiven (fun w => .sameFlags (unnoticed_supportsVersion name w))
      (fun w => by rw [outcome_supportsVersion, hversions]) hv
  exact ⟨⟨hel, hev⟩, ht'.trans ht⟩

/-- **A row shows a flag by the rules of the first flag of its name.** -/
theorem run_row (hg : s.roster.get? f.name = some g)
    (h : (row f level version).run s = (.ok v, s')) :
    Shows level version f g v ∧ s'.roster = s.roster := by
  obtain ⟨e, t, he, h⟩ := run_bind_eq_ok h
  obtain ⟨rfl, rfl⟩ := run_pure_eq_ok h
  obtain ⟨heligible, hroster⟩ := run_eligibility hg he
  exact ⟨⟨e, rfl, heligible⟩, hroster⟩

/-- Rows made one after the other show flags that are there. -/
theorem run_mapM_hostRow {fs : List Flag} {vs : List Json}
    (h : (fs.mapM (hostRow settings)).run s = (.ok vs, s'))
    (hfs : ∀ f ∈ fs, f ∈ s.roster) :
    (∀ v ∈ vs, ∃ f ∈ fs, ∃ g, s.roster.get? f.name = some g ∧
      Shows (hostLevel settings) settings.hostVersion f g v) ∧ s'.roster = s.roster := by
  induction fs generalizing s vs with
  | nil =>
    obtain ⟨rfl, rfl⟩ := run_pure_eq_ok h
    exact ⟨fun v hv => absurd hv List.not_mem_nil, rfl⟩
  | cons f fs ih =>
    rw [List.mapM_cons] at h
    obtain ⟨v, t, hv, h⟩ := run_bind_eq_ok h
    obtain ⟨vs, t', hvs, h⟩ := run_bind_eq_ok h
    obtain ⟨rfl, rfl⟩ := run_pure_eq_ok h
    obtain ⟨g, hg⟩ := Roster.exists_get?_of_mem (hfs f List.mem_cons_self)
    obtain ⟨hshows, ht⟩ := run_row hg hv
    have hfs' : ∀ f' ∈ fs, f' ∈ t.roster := by
      intro f' hf'
      rw [ht]
      exact hfs f' (List.mem_cons_of_mem f hf')
    obtain ⟨hrows, ht'⟩ := ih hvs hfs'
    rw [ht] at hrows ht'
    refine ⟨fun w hw => ?_, ht'⟩
    rcases List.mem_cons.1 hw with rfl | hw
    · exact ⟨f, List.mem_cons_self, g, hg, hshows⟩
    · obtain ⟨f', hf', h⟩ := hrows w hw
      exact ⟨f', List.mem_cons_of_mem f hf', h⟩

/-! ## What each call shows -/

/-- **What a response reports of a switchboard**: each row shows one of its flags by the rules of
the first flag of that name; where a call is about one name, that is the flag itself. -/
def Reports (settings : Settings) (r : Request) (c : Call) (response : Response)
    (s : Switchboard) : Prop :=
  ∀ v ∈ response.rows c, ∃ f ∈ s.roster, ∃ g, s.roster.get? f.name = some g ∧
    Shows (levelOf settings r c) (versionOf settings r c) f g v ∧
    (c ≠ .list → c ≠ .create → f = g)

/-- What is refused reports nothing. -/
theorem reports_of_refused (h : 300 ≤ response.status) : Reports settings r c response s := by
  intro v hv
  have hrows : response.rows c = [] := by
    unfold Response.rows
    split
    · exact if_neg (Nat.not_lt.2 h)
    · rfl
  rw [hrows] at hv
  cases hv

/-- A response with one row reports the flag that is shown there. -/
theorem reports_row {status : Nat} (hstatus : status < 300) (hrows : c.rows v = [v])
    (hf : f ∈ s.roster) (hg : s.roster.get? f.name = some g)
    (hshows : Shows (levelOf settings r c) (versionOf settings r c) f g v)
    (hone : c ≠ .list → c ≠ .create → f = g) : Reports settings r c (.of status v) s := by
  intro w hw
  have hw : w ∈ if status < 300 then c.rows v else [] := hw
  rw [if_pos hstatus, hrows] at hw
  obtain rfl := List.mem_singleton.1 hw
  exact ⟨f, hf, g, hg, hshows, hone⟩

theorem status_of_document (h : r.document = .error response) : 300 ≤ response.status := by
  unfold Request.document at h
  split at h
  · cases h
    exact (by decide : 300 ≤ 422)
  · split at h
    · cases h
      exact (by decide : 300 ≤ 400)
    · split at h <;> cases h
      · exact (by decide : 300 ≤ 400)
      · exact (by decide : 300 ≤ 400)
      · exact (by decide : 300 ≤ 422)

theorem status_of_read {α : Type} {decode : Json → Checked α}
    (h : r.read decode = .error response) : 300 ≤ response.status := by
  unfold Request.read at h
  cases hd : r.document with
  | error response' =>
    rw [hd] at h
    cases h
    exact status_of_document hd
  | ok v =>
    rw [hd] at h
    have h : (decode v).mapError _ = Except.error response := h
    cases hv : decode v with
    | error issues =>
      rw [hv] at h
      cases h
      exact (by decide : 300 ≤ 422)
    | ok a => rw [hv] at h; cases h

theorem status_of_level (h : r.level = .error response) : 300 ≤ response.status := by
  unfold Request.level at h
  split at h
  · cases h
  · split at h <;> cases h
    exact (by decide : 300 ≤ 422)

theorem status_of_refuse {x : Fault} (hx : 300 ≤ x.status.toNat)
    (h : (refuse x).run s = (.ok response, s')) : 300 ≤ response.status := by
  obtain ⟨-, t, -, h⟩ := run_bind_eq_ok h
  obtain ⟨rfl, rfl⟩ := run_pure_eq_ok h
  exact hx

theorem reports_list (h : (list settings).run s = (.ok response, s')) :
    Reports settings r .list response s' := by
  obtain ⟨_, t, ht, h⟩ := run_bind_eq_ok h
  obtain ⟨rfl, rfl⟩ : _ = _ ∧ s = t := run_pure_eq_ok ht
  obtain ⟨vs, t, hvs, h⟩ := run_bind_eq_ok h
  obtain ⟨rfl, rfl⟩ := run_pure_eq_ok h
  obtain ⟨hrows, ht⟩ := run_mapM_hostRow hvs fun _ hf => hf
  intro v hv
  obtain ⟨f, hf, g, hg, hshows⟩ := hrows v hv
  rw [← ht] at hf hg
  exact ⟨f, hf, g, hg, hshows, fun h => absurd rfl h⟩

theorem reports_create (hs : s.within Operation.keepsFlags)
    (h : (create settings r).run s = (.ok response, s')) :
    Reports settings r .create response s' := by
  unfold create at h
  cases hr : r.read (Flag.decode .modelAttributesType) with
  | error response' =>
    rw [hr] at h
    obtain ⟨rfl, rfl⟩ := run_pure_eq_ok h
    exact reports_of_refused (status_of_read hr)
  | ok f =>
    rw [hr] at h
    obtain ⟨a, t, ha, h⟩ := run_bind_eq_ok h
    obtain ⟨v, t', hv, h⟩ := run_bind_eq_ok h
    obtain ⟨rfl, rfl⟩ := run_pure_eq_ok h
    have ht : t.roster = s.roster.insert f := by
      have hchange := (perform_change (.save (.ok f)) hs).1
      rwa [after, ha] at hchange
    have hf : f ∈ t.roster := by
      rw [ht]
      exact List.mem_append_right _ List.mem_cons_self
    obtain ⟨g, hg⟩ := Roster.exists_get?_of_mem hf
    obtain ⟨hshows, ht'⟩ := run_row hg hv
    rw [← ht'] at hf hg
    exact reports_row (by decide) rfl hf hg hshows fun _ h => absurd rfl h

/-- A flag that takes the place of the first one of its name is the first one. -/
theorem reports_update {status : Nat} {s₁ s₂ : Switchboard} {a : Answer}
    (hstatus : status < 300) (hrows : c.rows v = [v])
    (hlevel : levelOf settings r c = hostLevel settings)
    (hversion : versionOf settings r c = settings.hostVersion)
    (hs : s.within Operation.keepsFlags)
    (ha : (perform (.change (.update (.ok f)))).run s = (.ok a, s₁))
    (hsame : s₂.roster = s₁.roster) (hv : (hostRow settings f).run s₂ = (.ok v, s')) :
    Reports settings r c (.of status v) s' := by
  have hs₁ : s₁.roster = s.roster.upsert f := by
    have hchange := (perform_change (.update (.ok f)) hs).1
    rwa [after, ha] at hchange
  have hg : s₂.roster.get? f.name = some f := by
    rw [hsame, hs₁, Roster.get?_upsert, if_pos rfl]
  obtain ⟨hshows, hs'⟩ := run_row hg hv
  rw [← hs'] at hg
  rw [← hlevel, ← hversion] at hshows
  exact reports_row hstatus hrows (Roster.mem_of_get? hg) hg hshows fun _ _ => rfl

theorem reports_replace {name : Text} (hs : s.within Operation.keepsFlags)
    (h : (replace settings name r).run s = (.ok response, s')) :
    Reports settings r (.replace name) response s' := by
  unfold replace at h
  cases hr : r.read Replacement.decode with
  | error response' =>
    rw [hr] at h
    obtain ⟨rfl, rfl⟩ := run_pure_eq_ok h
    exact reports_of_refused (status_of_read hr)
  | ok replacement =>
    rw [hr] at h
    obtain ⟨_, t, ht, h⟩ := run_bind_eq_ok h
    obtain ⟨rfl, rfl⟩ : _ = _ ∧ s = t := run_pure_eq_ok ht
    dsimp only at h
    split at h
    · obtain ⟨a, t, ha, h⟩ := run_bind_eq_ok h
      obtain ⟨v, t', hv, h⟩ := run_bind_eq_ok h
      obtain ⟨rfl, rfl⟩ := run_pure_eq_ok h
      exact reports_update (by decide) rfl rfl rfl hs ha rfl hv
    · exact reports_of_refused (status_of_refuse (by simp [Fault.status]) h)

theorem reports_toggle {name : Text} (hs : s.within Operation.keepsFlags)
    (h : (toggle settings name).run s = (.ok response, s')) :
    Reports settings r (.toggle name) response s' := by
  unfold toggle at h
  obtain ⟨_, t, ht, h⟩ := run_bind_eq_ok h
  obtain ⟨rfl, rfl⟩ : _ = _ ∧ s = t := run_pure_eq_ok ht
  cases hf : s.roster.get? name with
  | none =>
    rw [hf] at h
    exact reports_of_refused (status_of_refuse (by simp [Fault.status]) h)
  | some f =>
    rw [hf] at h
    obtain ⟨a, t, ha, h⟩ := run_bind_eq_ok h
    obtain ⟨_, t', hn, h⟩ := run_bind_eq_ok h
    obtain ⟨v, t'', hv, h⟩ := run_bind_eq_ok h
    obtain ⟨rfl, rfl⟩ := run_pure_eq_ok h
    have hsame : t'.roster = t.roster := Keeps.run (.sameFlags (unnoticed_note _ _)) hn
    exact reports_update (by decide) rfl rfl rfl hs ha hsame hv

theorem reports_read {name : Text} (h : (read settings name r).run s = (.ok response, s')) :
    Reports settings r (.read name) response s' := by
  unfold read at h
  cases hl : r.level with
  | error response' =>
    rw [hl] at h
    obtain ⟨rfl, rfl⟩ := run_pure_eq_ok h
    exact reports_of_refused (status_of_level hl)
  | ok level =>
    rw [hl] at h
    obtain ⟨_, t, ht, h⟩ := run_bind_eq_ok h
    obtain ⟨rfl, rfl⟩ : _ = _ ∧ s = t := run_pure_eq_ok ht
    cases hf : s.roster.get? name with
    | none =>
      rw [hf] at h
      exact reports_of_refused (status_of_refuse (by simp [Fault.status]) h)
    | some f =>
      rw [hf] at h
      obtain ⟨v, t, hv, h⟩ := run_bind_eq_ok h
      obtain ⟨rfl, rfl⟩ := run_pure_eq_ok h
      have hg : s.roster.get? f.name = some f := by rw [Roster.name_of_get? hf, hf]
      obtain ⟨hshows, ht⟩ := run_row hg hv
      rw [← ht] at hg
      have hlevel : levelOf settings r (.read name) = (level <|> hostLevel settings) := by
        rw [levelOf, hl]
        rfl
      refine reports_row (by decide) rfl (Roster.mem_of_get? hg) hg ?_ fun _ _ => rfl
      rw [hlevel]
      exact hshows

/-- What has no rows reports nothing. -/
theorem reports_of_rowless (hc : ∀ v, c.rows v = []) : Reports settings r c response s := by
  intro v hv
  have hrows : response.rows c = [] := by
    unfold Response.rows
    split
    · rw [hc, ite_self]
    · rfl
  rw [hrows] at hv
  cases hv

/-- **What is answered reports the flags as they are when it is answered.** -/
theorem reports_answer (hs : s.within Operation.keepsFlags)
    (h : (answer settings r c).run s = (.ok response, s')) : Reports settings r c response s' := by
  cases c with
  | health | clear | stream => exact reports_of_rowless fun _ => rfl
  | list => exact reports_list h
  | create => exact reports_create hs h
  | read => exact reports_read h
  | replace => exact reports_replace hs h
  | toggle => exact reports_toggle hs h

/-- A response that is given is the reply, and it can be sent. -/
theorem run_reply_of_respond (h : (respond settings r).run s = (.ok response, s')) :
    (reply settings r).run s = (.ok response, s') ∧ response.body.send.isOk := by
  obtain ⟨response', t, hreply, h⟩ := run_bind_eq_ok h
  cases hsend : response'.body.send with
  | error => rw [hsend] at h; cases h
  | ok =>
    rw [hsend] at h
    obtain ⟨rfl, rfl⟩ := run_pure_eq_ok h
    exact ⟨hreply, by rw [hsend]; rfl⟩

/-- What is answered to a call, if a response is given. -/
theorem run_answer_of_respond (hroute : Route.find r.method (Target.path r.target) = .call c)
    (h : (respond settings r).run s = (.ok response, s')) :
    (answer settings r c).run s = (.ok response, s') := by
  rw [← (run_reply_of_respond h).1, reply, hroute]

theorem reports_respond (hs : s.within Operation.keepsFlags)
    (hroute : Route.find r.method (Target.path r.target) = .call c)
    (h : (respond settings r).run s = (.ok response, s')) : Reports settings r c response s' :=
  reports_answer hs (run_answer_of_respond hroute h)

/-- **A row agrees with itself just if the rules of the first flag of that name say for this host
what the rules shown say**; and it always does when it answers for one name.  Callbacks are taken to
leave the flags alone. -/
theorem row_consistent_iff (hs : s.within Operation.keepsFlags)
    (hroute : Route.find r.method (Target.path r.target) = .call c)
    (h : (respond settings r).run s = (.ok response, s')) :
    ∀ v ∈ response.rows c, ∃ f ∈ s'.roster, ∃ first, s'.roster.get? f.name = some first ∧
      Shows (levelOf settings r c) (versionOf settings r c) f first v ∧
      (Consistent (levelOf settings r c) (versionOf settings r c) v ↔
        Agree (levelOf settings r c) (versionOf settings r c) f.condition first.condition) ∧
      (c ≠ .list → c ≠ .create →
        Consistent (levelOf settings r c) (versionOf settings r c) v) := by
  intro v hv
  obtain ⟨f, hf, first, hfirst, hshows, hone⟩ := reports_respond hs hroute h v hv
  have hiff := consistent_iff_agree hshows
  refine ⟨f, hf, first, hfirst, hshows, hiff, fun hlist hcreate => hiff.2 ?_⟩
  rw [hone hlist hcreate]
  exact agree_refl _ _ _

/-- **Where no two flags have one name, every row agrees with itself.** -/
theorem consistent_of_nodup (hs : s.within Operation.keepsFlags)
    (hroute : Route.find r.method (Target.path r.target) = .call c)
    (h : (respond settings r).run s = (.ok response, s'))
    (hnodup : (s'.roster.map (·.name)).Nodup) :
    ∀ v ∈ response.rows c, Consistent (levelOf settings r c) (versionOf settings r c) v := by
  intro v hv
  obtain ⟨f, hf, g, hg, hshows, -⟩ := reports_respond hs hroute h v hv
  have hfg : f = g := List.inj_on_of_nodup_map hnodup hf (Roster.mem_of_get? hg)
    (Roster.name_of_get? hg).symm
  rw [consistent_iff_agree hshows, hfg]
  exact agree_refl _ _ _

/-! ## Two flags of one name -/

/-- What is answered is the response, if it can be sent. -/
theorem run_respond (hroute : Route.find r.method (Target.path r.target) = .call c)
    (hanswer : (answer settings r c).run s = (.ok response, s'))
    (hsend : response.body.send.isOk) : (respond settings r).run s = (.ok response, s') := by
  have hreply : (reply settings r).run s = (.ok response, s') := by rw [reply, hroute, hanswer]
  rw [respond, run_bind, hreply]
  cases hbody : response.body.send with
  | error => rw [hbody] at hsend; cases hsend
  | ok => dsimp only; rw [hbody]; rfl

/-- A host of level 10. -/
def hostOfTen : Settings :=
  ⟨"FlagGate", "0.1.0", false, .info, false, .ofText "flag_cache.json", some 10, none,
    .ofRatio false 1 1⟩

/-- The request for all flags. -/
def listing : Request := ⟨"GET", "/api/features", []⟩

/-- A flag for hosts below level 5. -/
def oldTwin : Flag := ⟨"f", true, ⟨["<5"], []⟩⟩

/-- A flag of the same name for all other hosts. -/
def newTwin : Flag := ⟨"f", true, ⟨[">=5"], []⟩⟩

/-- The response that lists both twins: the host may use neither, it says. -/
def twinRows : Response :=
  .of 200 (.obj [
    ("features", .arr [rowOf oldTwin ⟨some false, none⟩, rowOf newTwin ⟨some false, none⟩]),
    ("enabled_count", .int 2), ("disabled_count", .int 0), ("total_count", .int 2)])

theorem route_listing : Route.find listing.method (Target.path listing.target) = .call .list := by
  decide +kernel

theorem run_twins : (respond hostOfTen listing).run (ofRoster [oldTwin, newTwin])
    = (.ok twinRows, ofRoster [oldTwin, newTwin]) :=
  run_respond route_listing rfl (by decide +kernel)

/-- The row of the new twin is in the list. -/
theorem newTwin_mem_rows : rowOf newTwin ⟨some false, none⟩ ∈ twinRows.rows .list :=
  List.mem_cons_of_mem _ List.mem_cons_self

/-- The row of the new twin agrees with itself just if the rules of the first flag of that name say
what its own rules say. -/
theorem row_consistent_twins : ∃ f ∈ [oldTwin, newTwin],
    ∃ first, Roster.get? [oldTwin, newTwin] f.name = some first ∧
      Shows (some 10) none f first (rowOf newTwin ⟨some false, none⟩) ∧
      (Consistent (some 10) none (rowOf newTwin ⟨some false, none⟩) ↔
        Agree (some 10) none f.condition first.condition) ∧
      (Call.list ≠ .list → Call.list ≠ .create →
        Consistent (some 10) none (rowOf newTwin ⟨some false, none⟩)) :=
  row_consistent_iff rfl route_listing run_twins _ newTwin_mem_rows

/-- **A list may show a row that does not agree with itself**: the new twin is for the host by the
rules shown, and the row says that it is not. -/
theorem list_inconsistent : ∃ v ∈ twinRows.rows .list,
    (respond hostOfTen listing).run (ofRoster [oldTwin, newTwin])
      = (.ok twinRows, ofRoster [oldTwin, newTwin]) ∧
    ¬ Consistent (levelOf hostOfTen listing .list) (versionOf hostOfTen listing .list) v := by
  refine ⟨rowOf newTwin ⟨some false, none⟩, newTwin_mem_rows, run_twins, ?_⟩
  have hshows : Shows (some 10) none newTwin oldTwin (rowOf newTwin ⟨some false, none⟩) :=
    ⟨_, rfl, rfl, rfl⟩
  intro hconsistent
  have hagree := (consistent_iff_agree hshows).1 hconsistent
  have hnew : (LevelRule.evaluateAny newTwin.condition.levels 10).answer = .ok true := rfl
  have hold : (LevelRule.evaluateAny oldTwin.condition.levels 10).answer = .ok false := rfl
  rw [hagree.1 10 true rfl hnew] at hold
  cases hold

end Panel

end FeatureFlags

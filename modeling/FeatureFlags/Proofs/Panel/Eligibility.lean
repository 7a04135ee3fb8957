import FeatureFlags.Proofs.Flag.Persistence
import FeatureFlags.Proofs.Json.Sending
import FeatureFlags.Proofs.Panel.Rows
import FeatureFlags.Proofs.Rule.VersionOrder

/-!
# Proofs/Panel/Eligibility — what the rows of a panel come to

The eligibility of a name is what the condition of its first flag gives, provided that the level
rules leave an answer (`Condition.eligible_eligibility`); version rules always do.  So each row is
made (`outcome_row_of_shows`), and all flags are listed (`outcome_list`), and what is made can be
sent if the texts of the flags can be encoded (`send_rowOf`, `send_listOf`).
-/

namespace FeatureFlags

open Switchboard Panel

/-! ## Eligibility of a name -/

/-- **The eligibility that a condition gives**; what its rules leave without an answer counts as
no. -/
def Condition.eligibility (level : Option Int) (version : Option Text) (c : Condition) :
    Eligibility :=
  ⟨level.map fun n => (LevelRule.evaluateAny c.levels n).answer.toOption.getD false,
    version.map fun t => (VersionRule.evaluateAny c.versions t).answer.toOption.getD false⟩

/-- **The eligibility of a name**: that of the first flag of this name. -/
def Roster.eligibility (r : Roster) (level : Option Int) (version : Option Text) (name : Text) :
    Eligibility :=
  ((r.get? name).elim .unrestricted (·.condition)).eligibility level version

variable {level : Option Int} {version : Option Text} {f g : Flag} {s : Switchboard}

theorem Roster.eligibility_of_get? {r : Roster} {name : Text} (h : r.get? name = some g) :
    r.eligibility level version name = g.condition.eligibility level version := by
  rw [Roster.eligibility, h]
  rfl

/-- Version rules always leave an answer. -/
theorem VersionRule.exists_answer_evaluateAny (rules : List Text) (version : Text) :
    ∃ b, (VersionRule.evaluateAny rules version).answer = .ok b := by
  rw [VersionRule.evaluateAny, Verdict.any]
  split
  · exact ⟨true, rfl⟩
  · rw [Verdict.answer_firstMatch]
    split
    · exact ⟨_, VersionRule.answer_evaluate _ version⟩
    · exact ⟨false, rfl⟩

/-- **A condition gives its eligibility** if its level rules leave an answer. -/
theorem Condition.eligible_eligibility {c : Condition}
    (h : ∀ n ∈ level, (LevelRule.evaluateAny c.levels n).answer.isOk) :
    Eligible level version c (c.eligibility level version) := by
  constructor
  · cases level with
    | none => rfl
    | some n =>
      have hn := h n rfl
      rw [eligibility]
      dsimp only [Option.map]
      cases hanswer : (LevelRule.evaluateAny c.levels n).answer with
      | error => rw [hanswer] at hn; cases hn
      | ok b => rfl
  · cases version with
    | none => rfl
    | some t =>
      obtain ⟨b, hb⟩ := VersionRule.exists_answer_evaluateAny c.versions t
      rw [eligibility]
      dsimp only [Option.map]
      rw [hb]
      rfl

namespace Panel

variable {settings : Settings} {name : Text} {v : Json}

/-! ## What a row needs -/

theorem outcome_ifGiven {α : Type} {asked : Option α} {x : α → Action Bool} {shown : Option Bool}
    {answer : α → Except Overlong Bool}
    (hanswer : ∀ a, outcome (x a) s = (answer a).mapError .overlong)
    (h : asked.map answer = shown.map .ok) : outcome (ifGiven asked x) s = .ok shown := by
  cases asked with
  | none => cases shown with
    | none => rfl
    | some => cases h
  | some a => cases shown with
    | none => cases h
    | some b =>
      have hb : answer a = .ok b := Option.some.inj h
      rw [ifGiven, outcome_bind, hanswer, hb]
      rfl

/-- **What the first flag of a name gives is the eligibility of the name.** -/
theorem outcome_eligibility {e : Eligibility} (hg : s.roster.get? name = some g)
    (h : Eligible level version g.condition e) :
    outcome (eligibility name level version) s = .ok e := by
  have hlevels : s.roster.levelRules name = g.condition.levels := by rw [Roster.levelRules, hg]; rfl
  have hl : outcome (ifGiven level (supportsLevel name)) s = .ok e.level :=
    outcome_ifGiven (fun n => by rw [outcome_supportsLevel, hlevels]) h.1
  have hroster : (after (ifGiven level (supportsLevel name)) s).roster = s.roster :=
    Keeps.of_ifGiven (fun n => .sameFlags (unnoticed_supportsLevel name n)) s
  have hversions : (after (ifGiven level (supportsLevel name)) s).roster.versionRules name
      = g.condition.versions := by
    rw [hroster, Roster.versionRules, hg]
    rfl
  have hv : outcome (ifGiven version (supportsVersion name))
      (after (ifGiven level (supportsLevel name)) s) = .ok e.version :=
    outcome_ifGiven (fun t => by rw [outcome_supportsVersion, hversions]) h.2
  rw [eligibility, outcome_bind, hl]
  dsimp only
  rw [outcome_bind, hv]
  rfl

/-- **A row that shows a flag is the row that is made of it.** -/
theorem outcome_row_of_shows (hg : s.roster.get? f.name = some g)
    (h : Shows level version f g v) : outcome (row f level version) s = .ok v := by
  obtain ⟨e, rfl, he⟩ := h
  rw [row, outcome_bind, outcome_eligibility hg he]
  rfl

/-! ## Rows that can be sent -/

theorem stringsOfItems_texts (ts : List Text) : Json.stringsOfItems (ts.map .str) = ts := by
  induction ts with
  | nil => rfl
  | cons t ts ih => rw [List.map_cons, Json.stringsOfItems, ih]; rfl

theorem encodable_strings_rowOf (h : ∀ t ∈ f.texts, t.Encodable) (e : Eligibility) :
    ∀ t ∈ (rowOf f e).strings, t.Encodable := by
  obtain ⟨hname, hrules⟩ := List.forall_mem_cons.1 h
  obtain ⟨hlevels, hversions⟩ := List.forall_mem_append.1 hrules
  have hword (word : String) : (Text.ofString word).Encodable := Text.encodable_ofString word
  have hanswer (o : Option Bool) : (Json.ofOption .bool o).strings = [] := by cases o <;> rfl
  simp only [rowOf, Json.texts, Json.strings, Json.stringsOfFields, stringsOfItems_texts, hanswer,
    List.append_nil, List.cons_append, List.nil_append, List.forall_mem_cons,
    List.forall_mem_append]
  exact ⟨hword _, hname, hword _, hword _, hlevels, hword _, hversions, hword _, hword _,
    List.forall_mem_nil _⟩

/-- **The row of a flag can be sent if the texts of the flag can be encoded.** -/
theorem send_rowOf (h : ∀ t ∈ f.texts, t.Encodable) (e : Eligibility) : (rowOf f e).send.isOk :=
  Json.send_isOk (encodable_strings_rowOf h e)

/-! ## All rows -/

/-- A row for the host of a flag among others. -/
def hostRowOf (settings : Settings) (r : Roster) (f : Flag) : Json :=
  rowOf f (r.eligibility (hostLevel settings) settings.hostVersion f.name)

/-- **The response that lists all flags.** -/
def listOf (settings : Settings) (r : Roster) : Response :=
  .of 200 (.obj [("features", .arr (r.map (hostRowOf settings r))),
    ("enabled_count", .int r.enabled.length), ("disabled_count", .int r.disabled.length),
    ("total_count", .int r.length)])

theorem rows_listOf (settings : Settings) (r : Roster) :
    (listOf settings r).rows .list = r.map (hostRowOf settings r) := rfl

/-- **A row for the host is made** if the level rules that it goes by leave an answer. -/
theorem outcome_hostRow (hg : s.roster.get? f.name = some g)
    (h : ∀ n ∈ hostLevel settings, (LevelRule.evaluateAny g.condition.levels n).answer.isOk) :
    outcome (hostRow settings f) s = .ok (hostRowOf settings s.roster f) := by
  refine outcome_row_of_shows hg ⟨_, rfl, ?_⟩
  rw [Roster.eligibility_of_get? hg]
  exact Condition.eligible_eligibility h

theorem recorded_hostRow (settings : Settings) (f : Flag) : Keeps Recorded (hostRow settings f) :=
  .of_bind (recorded_eligibility _ _ _) fun _ => .of_pure _

/-- Actions that leave the flags alone, one after the other. -/
theorem outcome_mapM {α β : Type} {x : α → Action β} {y : α → β} {as : List α} {r : Roster}
    (hkeeps : ∀ a, Keeps SameFlags (x a))
    (hx : ∀ a ∈ as, ∀ s : Switchboard, s.roster = r → outcome (x a) s = .ok (y a))
    (hs : s.roster = r) : outcome (as.mapM x) s = .ok (as.map y) := by
  induction as generalizing s with
  | nil => rfl
  | cons a as ih =>
    obtain ⟨ha, has⟩ := List.forall_mem_cons.1 hx
    have hrest := ih has ((hkeeps a s).trans hs)
    rw [List.mapM_cons, outcome_bind, ha s hs]
    dsimp only
    rw [outcome_bind, hrest]
    rfl

/-- **All flags are listed** if all level rules leave an answer. -/
theorem outcome_list (h : ∀ g ∈ s.roster, ∀ n ∈ hostLevel settings,
    (LevelRule.evaluateAny g.condition.levels n).answer.isOk) :
    outcome (list settings) s = .ok (listOf settings s.roster) := by
  have hrows : outcome (s.roster.mapM (hostRow settings)) s
      = .ok (s.roster.map (hostRowOf settings s.roster)) := by
    refine outcome_mapM (fun f => .sameFlags (recorded_hostRow settings f).unnoticed) ?_ rfl
    rintro f hf t ht
    rw [← ht] at hf ⊢
    obtain ⟨g, hg⟩ := Roster.exists_get?_of_mem hf
    exact outcome_hostRow hg (h g (ht ▸ Roster.mem_of_get? hg))
  rw [list, outcome_get_bind, outcome_bind, hrows]
  rfl

theorem stringsOfItems_eq_flatMap (vs : List Json) :
    Json.stringsOfItems vs = vs.flatMap Json.strings := by
  induction vs with
  | nil => rfl
  | cons v vs ih => rw [Json.stringsOfItems, ih, List.flatMap_cons]

/-- **The list of all flags can be sent if their texts can be encoded.** -/
theorem send_listOf {r : Roster} (h : ∀ f ∈ r, ∀ t ∈ f.texts, t.Encodable) :
    (listOf settings r).body.send.isOk := by
  have hword (word : String) : (Text.ofString word).Encodable := Text.encodable_ofString word
  refine Json.send_isOk ?_
  simp only [Json.strings, Json.stringsOfFields, stringsOfItems_eq_flatMap, List.append_nil,
    List.cons_append, List.nil_append, List.forall_mem_cons, List.forall_mem_append]
  refine ⟨hword _, fun t ht => ?_, hword _, hword _, hword _, List.forall_mem_nil _⟩
  obtain ⟨v, hv, ht⟩ := List.mem_flatMap.1 ht
  obtain ⟨f, hf, rfl⟩ := List.mem_map.1 hv
  exact encodable_strings_rowOf (h f hf) _ t ht

end Panel

end FeatureFlags

import FeatureFlags.Proofs.Panel.Addresses
import FeatureFlags.Proofs.Switchboard.Lasting

/-!
# Proofs/Panel/Replacing — replacing a flag, and toggling it once and twice

A flag that is defined anew takes the place of the first one of its name, or the last place, and no
other flag changes (`Roster.redefined_upsert`).  A request that replaces or toggles a flag does just
that (`Installs`), and publishes the state of the flag.  The row it answers with is what asking for
the flag gives next, and the first row of the name in the list of all flags (`Presents`).

    roster    before ++ old :: after  ──▸  before ++ new :: after  ──▸  before ++ old :: after
    handed                               !enabled                    enabled
-/

namespace FeatureFlags

open Switchboard Panel

/-! ## Rosters -/

namespace Roster

/-- **A flag is defined anew**: it takes the place of the first flag of its name, or, if there is
none, the last place. -/
inductive Redefined (f : Flag) : Option Flag → Roster → Roster → Prop
  | replaced {before after : Roster} {g : Flag} (hbefore : ∀ h ∈ before, h.name ≠ f.name)
      (hg : g.name = f.name) : Redefined f (some g) (before ++ g :: after) (before ++ f :: after)
  | appended {r : Roster} (h : ∀ g ∈ r, g.name ≠ f.name) : Redefined f none r (r ++ [f])

theorem get?_cons (g : Flag) (r : Roster) (name : Text) :
    get? (g :: r) name = if g.name = name then some g else r.get? name := by
  by_cases h : g.name = name <;> simp [get?, h]

theorem redefined_upsert (r : Roster) (f : Flag) :
    Redefined f (r.get? f.name) r (r.upsert f) := by
  induction r with
  | nil => exact .appended (List.forall_mem_nil _)
  | cons g r ih =>
    rw [upsert, get?_cons]
    by_cases hg : g.name = f.name
    · rw [if_pos hg, if_pos hg]
      exact @Redefined.replaced f [] r g (List.forall_mem_nil _) hg
    · rw [if_neg hg, if_neg hg]
      generalize get? r f.name = old, upsert r f = r' at ih
      cases ih with
      | replaced hbefore hg' => exact .replaced (List.forall_mem_cons.2 ⟨hg, hbefore⟩) hg'
      | appended h => exact .appended (List.forall_mem_cons.2 ⟨hg, h⟩)

theorem mem_of_mem_upsert {r : Roster} {f g : Flag} (h : g ∈ r.upsert f) : g = f ∨ g ∈ r := by
  have hr := redefined_upsert r f
  generalize r.get? f.name = old, r.upsert f = r' at h hr
  cases hr with
  | replaced =>
    simp only [List.mem_append, List.mem_cons] at h ⊢
    tauto
  | appended => exact (List.mem_append.1 h).symm.imp_left List.mem_singleton.1

/-- What is defined anew twice is as it was defined last. -/
theorem upsert_upsert (r : Roster) {f g : Flag} (h : f.name = g.name) :
    (r.upsert f).upsert g = r.upsert g := by
  induction r with
  | nil => exact if_pos h
  | cons k r ih =>
    by_cases hk : k.name = g.name
    · rw [upsert, if_pos (hk.trans h.symm), upsert, if_pos h, upsert, if_pos hk]
    · rw [upsert, if_neg fun hf => hk (hf.trans h), upsert, if_neg hk, ih, upsert, if_neg hk]

/-- Defining a flag as it is changes nothing. -/
theorem upsert_of_get? {r : Roster} {f : Flag} (h : r.get? f.name = some f) : r.upsert f = r := by
  induction r with
  | nil => cases h
  | cons g r ih =>
    rw [get?_cons] at h
    rw [upsert]
    by_cases hg : g.name = f.name
    · rw [if_pos hg] at h ⊢
      rw [Option.some.inj h]
    · rw [if_neg hg] at h ⊢
      rw [ih h]

end Roster

/-! ## Bodies -/

/-- **The body of a request leaves the condition out**, or says null in its place. -/
def Request.OmitsCondition (r : Request) : Prop :=
  ∀ v w, r.document = .ok v → v.field? "condition" = some w → w = .null

/-- A new state without a condition has none. -/
theorem Replacement.condition_of_decode {v : Json} {e : Replacement}
    (h : Replacement.decode v = .ok e) (hv : ∀ w, v.field? "condition" = some w → w = .null) :
    e.condition = none := by
  cases v with
  | obj fields =>
    obtain ⟨⟨enabled, condition⟩, hboth, rfl⟩ := map_eq_ok_iff.1 h
    have hcondition := Checked.within_eq_ok_iff.1 (Checked.both_eq_ok_iff.1 hboth).2
    cases hlookup : Json.lookup? "condition" fields with
    | none =>
      rw [hlookup] at hcondition
      exact (Except.ok.inj hcondition).symm
    | some w =>
      obtain rfl := hv w hlookup
      rw [hlookup] at hcondition
      exact (Except.ok.inj hcondition).symm
  | _ => cases h

theorem Request.OmitsCondition.condition {r : Request} {e : Replacement} (h : r.OmitsCondition)
    (hr : r.read Replacement.decode = .ok e) : e.condition = none := by
  obtain ⟨v, hdocument, hdecode⟩ := exists_decode_of_read hr
  exact Replacement.condition_of_decode hdecode fun w hw => h v w hdocument hw

namespace Panel

variable {settings : Settings} {r q : Request} {name : Text} {response : Response} {v : Json}
variable {s s' t t' : Switchboard} {p : Operation → Bool} {f g : Flag}

/-! ## What a request leaves -/

/-- **A flag is installed**: it is defined anew, its state is published, and it is shown. -/
structure Installs (settings : Settings) (p : Operation → Bool) (f : Flag) (v : Json)
    (s s' : Switchboard) : Prop extends Updates p f s s' where
  shows : Shows (hostLevel settings) settings.hostVersion f f v

theorem Installs.get? (hp : ∀ o, p o → o.keepsFlags) (h : Installs settings p f v s s') :
    s'.roster.get? f.name = some f := by
  rw [h.roster hp, Roster.get?_upsert, if_pos rfl]

theorem Installs.redefined (hp : ∀ o, p o → o.keepsFlags) (h : Installs settings p f v s s') :
    Roster.Redefined f (s.roster.get? f.name) s.roster s'.roster := by
  rw [h.roster hp]
  exact Roster.redefined_upsert s.roster f

section

variable (hp : ∀ o, p o → o.keepsFlags) (hs : s.within p)

include hp hs

/-- An update and the row that is made after it. -/
theorem installs_of_run {a : Answer}
    (ha : (perform (.change (.update (.ok f)))).run s = (.ok a, t)) (hr : Recorded t t')
    (hv : (hostRow settings f).run t' = (.ok v, s')) : Installs settings p f v s s' := by
  have hupdates := (updates_of_perform hs ha).recorded hr
  have hf : t'.roster.get? f.name = some f := by
    rw [hupdates.roster hp, Roster.get?_upsert, if_pos rfl]
  exact ⟨hupdates.recorded ((recorded_hostRow settings f).run hv), (run_row hf hv).1⟩

/-- **What a replacement leaves**: the flag has the new state, and the new condition, or its own. -/
theorem installs_replace (h : (replace settings name r).run s = (.ok response, s'))
    (hstatus : response.status = 200) :
    ∃ e v, r.read Replacement.decode = .ok e ∧ response = .of 200 v ∧ Installs settings p
      ⟨name, e.enabled, (e.condition <|> (s.roster.get? name).map (·.condition)).getD
        .unrestricted⟩ v s s' := by
  unfold replace at h
  cases hr : r.read Replacement.decode with
  | error refusal =>
    rw [hr] at h
    obtain ⟨rfl, rfl⟩ := run_pure_eq_ok h
    exact absurd (status_of_read hr) (by rw [hstatus]; decide)
  | ok e =>
    rw [hr] at h
    obtain ⟨_, t, ht, h⟩ := run_bind_eq_ok h
    obtain ⟨rfl, rfl⟩ : _ = _ ∧ s = t := run_pure_eq_ok ht
    dsimp only at h
    split at h
    · obtain ⟨a, t, ha, h⟩ := run_bind_eq_ok h
      obtain ⟨v, t', hv, h⟩ := run_bind_eq_ok h
      obtain ⟨rfl, rfl⟩ := run_pure_eq_ok h
      exact ⟨e, v, rfl, rfl, installs_of_run hp hs ha (Std.Refl.refl _) hv⟩
    · exact absurd (status_of_refuse (by simp [Fault.status]) h) (by rw [hstatus]; decide)

/-- **What toggling leaves**: the flag has the other state. -/
theorem installs_toggle (h : (toggle settings name).run s = (.ok response, s'))
    (hstatus : response.status = 200) :
    ∃ f v, s.roster.get? name = some f ∧ response = .of 200 v ∧
      Installs settings p { f with enabled := !f.enabled } v s s' := by
  unfold toggle at h
  obtain ⟨_, t, ht, h⟩ := run_bind_eq_ok h
  obtain ⟨rfl, rfl⟩ : _ = _ ∧ s = t := run_pure_eq_ok ht
  cases hf : s.roster.get? name with
  | none =>
    rw [hf] at h
    exact absurd (status_of_refuse (by simp [Fault.status]) h) (by rw [hstatus]; decide)
  | some f =>
    rw [hf] at h
    obtain ⟨a, t, ha, h⟩ := run_bind_eq_ok h
    obtain ⟨_, t', hn, h⟩ := run_bind_eq_ok h
    obtain ⟨v, t'', hv, h⟩ := run_bind_eq_ok h
    obtain ⟨rfl, rfl⟩ := run_pure_eq_ok h
    exact ⟨f, v, rfl, rfl, installs_of_run hp hs ha ((recorded_note _ _).run hn) hv⟩

end

/-! ## What is shown next -/

/-- **The first row of a name** among rows. -/
def IsFirstRow (name : Text) (v : Json) (rows : List Json) : Prop :=
  ∃ before after, rows = before ++ v :: after ∧ v.field? "name" = some (.str name) ∧
    ∀ w ∈ before, w.field? "name" ≠ some (.str name)

/-- **A flag is presented by a document**: who asks for the name, and for no other level or version
than those of the host, gets it, and in the list of all flags it is the first row of the name.  The
list is given if all texts can be encoded. -/
structure Presents (settings : Settings) (name : Text) (v : Json) (s : Switchboard) : Prop where
  read (q : Request) (hroute : Route.find q.method (Target.path q.target) = .call (.read name))
    (hlevel : q.level = .ok none) (hversion : q.version = none) :
    outcome (respond settings q) s = .ok (.of 200 v)
  list (q : Request) (hroute : Route.find q.method (Target.path q.target) = .call .list) :
    ∃ response, outcome (reply settings q) s = .ok response ∧ response.status = 200 ∧
      IsFirstRow name v (response.rows .list) ∧
      ((∀ g ∈ s.roster, ∀ t ∈ g.texts, t.Encodable) →
        outcome (respond settings q) s = .ok response)

/-- **The row of the first flag of a name is the first row of it.** -/
theorem isFirstRow_map {r : Roster} (hf : r.get? f.name = some f) :
    IsFirstRow f.name (hostRowOf settings r f) (r.map (hostRowOf settings r)) := by
  obtain ⟨-, before, after, hr, hbefore⟩ := List.find?_eq_some_iff_append.1 hf
  refine ⟨before.map (hostRowOf settings r), after.map (hostRowOf settings r), ?_, rfl, ?_⟩
  · rw [hr, List.map_append, List.map_cons]
  · intro w hw hname
    obtain ⟨g, hg, rfl⟩ := List.mem_map.1 hw
    have hgname : g.name = f.name := Json.str.inj (Option.some.inj hname)
    exact absurd (hbefore g hg) (by simp [hgname])

/-- Where there is an eligibility, the level rules have left an answer. -/
theorem Eligible.isOk {level : Option Int} {version : Option Text} {c : Condition}
    {e : Eligibility} (h : Eligible level version c e) :
    ∀ n ∈ level, (LevelRule.evaluateAny c.levels n).answer.isOk := by
  rintro n rfl
  obtain ⟨b, -, hb⟩ := Option.map_eq_some_iff.1 h.1.symm
  have hanswer : (LevelRule.evaluateAny c.levels n).answer = .ok b := hb.symm
  rw [hanswer]
  rfl

/-- **What was installed is presented by its row**, if the row can be sent, and no level rules are
left without an answer. -/
theorem Installs.presents (hp : ∀ o, p o → o.keepsFlags) (h : Installs settings p f v s s')
    (hsend : v.send.isOk) (hanswers : ∀ g ∈ s.roster, ∀ n ∈ hostLevel settings,
      (LevelRule.evaluateAny g.condition.levels n).answer.isOk) :
    Presents settings f.name v s' := by
  have hf := h.get? hp
  obtain ⟨e, he, heligible⟩ := id h.shows
  have hv : v = hostRowOf settings s'.roster f := by
    have hmade := outcome_hostRow hf heligible.isOk
    rw [hostRow, outcome_row_of_shows hf h.shows] at hmade
    exact Except.ok.inj hmade
  have hlist : outcome (Panel.list settings) s' = .ok (listOf settings s'.roster) := by
    refine outcome_list fun g hg => ?_
    rw [h.roster hp] at hg
    rcases Roster.mem_of_mem_upsert hg with rfl | hg
    · exact heligible.isOk
    · exact hanswers g hg
  constructor
  · intro q hroute hlevel hversion
    refine outcome_respond_read hroute hlevel hf ?_ hsend
    rw [hversion]
    exact h.shows
  · intro q hroute
    refine ⟨listOf settings s'.roster, ?_, rfl, ?_, fun hencodable => ?_⟩
    · rw [reply, hroute]
      exact hlist
    · rw [hv, rows_listOf]
      exact isFirstRow_map hf
    · have hanswer : (answer settings q .list).run s'
          = (.ok (listOf settings s'.roster), after (Panel.list settings) s') := Prod.ext hlist rfl
      exact congrArg Prod.fst (run_respond hroute hanswer (send_listOf hencodable))

/-! ## Requests -/

/-- **A request for a call succeeds.** -/
structure Succeeds (settings : Settings) (c : Call) (r : Request) (s : Switchboard)
    (response : Response) (s' : Switchboard) : Prop where
  route : Route.find r.method (Target.path r.target) = .call c
  run : (respond settings r).run s = (.ok response, s')
  status : response.status = 200

theorem Succeeds.send {c : Call} (h : Succeeds settings c r s response s') :
    response.body.send.isOk := (run_reply_of_respond h.run).2

/-- **A flag toggled twice** is turned to the other state and back. -/
theorem installs_toggle_twice {r₁ r₂ : Request} {x₁ x₂ : Response} {s₁ s₂ : Switchboard}
    (hp : ∀ o, p o → o.keepsFlags) (hs : s.within p)
    (h₁ : Succeeds settings (.toggle name) r₁ s x₁ s₁)
    (h₂ : Succeeds settings (.toggle name) r₂ s₁ x₂ s₂) :
    ∃ f v₁ v₂, s.roster.get? name = some f ∧
      Installs settings p { f with enabled := !f.enabled } v₁ s s₁ ∧
      Installs settings p f v₂ s₁ s₂ := by
  obtain ⟨f, v₁, hf, -, hfirst⟩ :=
    installs_toggle hp hs (run_answer_of_respond h₁.route h₁.run) h₁.status
  obtain ⟨g, v₂, hg, -, hsecond⟩ :=
    installs_toggle hp hfirst.within (run_answer_of_respond h₂.route h₂.run) h₂.status
  obtain rfl : f.name = name := Roster.name_of_get? hf
  -- the flag that is toggled back is the one that was toggled
  have hfound : s₁.roster.get? f.name = some { f with enabled := !f.enabled } := hfirst.get? hp
  obtain rfl := Option.some.inj (hg.symm.trans hfound)
  have hback : Installs settings p { f with enabled := !(!f.enabled) } v₂ s₁ s₂ := hsecond
  rw [Bool.not_not] at hback
  exact ⟨f, v₁, v₂, hf, hfirst, hback⟩

/-! ### Two states, one after the other -/

section

variable {v₁ v₂ : Json} {s₁ s₂ : Switchboard} {h₁ h₂ : List Event} {l : ListenerId}

/-- A flag that is turned to the other state and back leaves the roster as it was. -/
theorem roster_of_installs_twice (hp : ∀ o, p o → o.keepsFlags)
    (hf : s.roster.get? f.name = some f)
    (hfirst : Installs settings p { f with enabled := !f.enabled } v₁ s s₁)
    (hsecond : Installs settings p f v₂ s₁ s₂) : s₂.roster = s.roster := by
  have hname : ({ f with enabled := !f.enabled } : Flag).name = f.name := rfl
  rw [hsecond.roster hp, hfirst.roster hp, Roster.upsert_upsert s.roster hname,
    Roster.upsert_of_get? hf]

variable (hs₁ : s₁.history = s.history ++ h₁) (hs₂ : s₂.history = s₁.history ++ h₂)

include hs₁ hs₂

/-- **Who listens all the while is handed the one state and then the other.** -/
theorem handed_of_installs_twice (hp : ∀ o, p o → o.keepsFlags)
    (hfirst : Installs settings p g v₁ s s₁) (hsecond : Installs settings p f v₂ s₁ s₂)
    (hl : l ∈ s.attached g.name) (ha : s.Available l) (hl₁ : l ∈ s₁.attached f.name)
    (ha₂ : s₂.Available l) : .handed l g.enabled ∈ h₁ ∧ .handed l f.enabled ∈ h₂ := by
  have ha₁ : s₁.Available l :=
    (hsecond.lasts hp).available ((hfirst.lasts hp).isSome ha.isSome) ha₂
  exact ⟨(hfirst.hands hp hl ha ha₁).mem hs₁, (hsecond.hands hp hl₁ ha₁ ha₂).mem hs₂⟩

/-- **Who listens hears the two states and nothing else**, if callbacks do nothing but fail. -/
theorem received_of_installs_twice
    (hfirst : Installs settings (fun _ => false) g v₁ s s₁)
    (hsecond : Installs settings (fun _ => false) f v₂ s₁ s₂) (ha : s.Available l) :
    received l h₁ = List.replicate ((s.attached g.name).count l) g.enabled ∧
      received l h₂ = List.replicate ((s.attached f.name).count l) f.enabled := by
  have hinformed₁ := hfirst.informed ha
  have hinformed₂ := hsecond.informed hinformed₁.available
  rw [hinformed₁.count] at hinformed₂
  exact ⟨hinformed₁.received_eq hs₁, hinformed₂.received_eq hs₂⟩

end

/-- **Replacing and toggling change the first flag of a name and nothing else**, and a flag toggled
twice is as it was.  The row that answers is the one that is shown next, and everybody who listens
to the name hears of the new state, whatever value the topic had before.  Callbacks are taken to
leave the flags alone, and level rules to be no longer than can be read. -/
theorem redefines_first_of_name (hs : s.within Operation.keepsFlags)
    (hanswers : ∀ g ∈ s.roster, ∀ n ∈ hostLevel settings,
      (LevelRule.evaluateAny g.condition.levels n).answer.isOk) (name : Text) :
    (∀ r response s', Succeeds settings (.replace name) r s response s' →
      ∃ e f v, r.read Replacement.decode = .ok e ∧ f.name = name ∧ f.enabled = e.enabled ∧
        f.condition = (e.condition <|> (s.roster.get? name).map (·.condition)).getD .unrestricted ∧
        (r.OmitsCondition → ∀ g, s.roster.get? name = some g → f.condition = g.condition) ∧
        Roster.Redefined f (s.roster.get? name) s.roster s'.roster ∧
        response = .of 200 v ∧ Presents settings name v s') ∧
    (∀ r response s', Succeeds settings (.toggle name) r s response s' →
      ∃ f v, s.roster.get? name = some f ∧
        Roster.Redefined { f with enabled := !f.enabled } (some f) s.roster s'.roster ∧
        response = .of 200 v ∧ Presents settings name v s') ∧
    ∀ r₁ r₂ x₁ x₂ s₁ s₂, Succeeds settings (.toggle name) r₁ s x₁ s₁ →
      Succeeds settings (.toggle name) r₂ s₁ x₂ s₂ →
      s₂.roster = s.roster ∧ ∃ f h₁ h₂, s.roster.get? name = some f ∧
        s₁.history = s.history ++ h₁ ∧ s₂.history = s₁.history ++ h₂ ∧
        (∀ l ∈ s.attached name, s.Available l → l ∈ s₁.attached name → s₂.Available l →
          .handed l (!f.enabled) ∈ h₁ ∧ .handed l f.enabled ∈ h₂) ∧
        (s.within (fun _ => false) → ∀ l, s.Available l →
          received l h₁ = List.replicate ((s.attached name).count l) (!f.enabled) ∧
          received l h₂ = List.replicate ((s.attached name).count l) f.enabled) := by
  have hp (o : Operation) (ho : o.keepsFlags = true) : o.keepsFlags = true := ho
  refine ⟨fun r response s' h => ?_, fun r response s' h => ?_,
    fun r₁ r₂ x₁ x₂ s₁ s₂ h₁ h₂ => ?_⟩
  · obtain ⟨e, v, he, rfl, hinstalls⟩ :=
      installs_replace hp hs (run_answer_of_respond h.route h.run) h.status
    refine ⟨e, _, v, he, rfl, rfl, rfl, fun homits g hg => ?_, hinstalls.redefined hp, rfl,
      hinstalls.presents hp h.send hanswers⟩
    rw [homits.condition he, hg]
    rfl
  · obtain ⟨f, v, hf, rfl, hinstalls⟩ :=
      installs_toggle hp hs (run_answer_of_respond h.route h.run) h.status
    obtain rfl : f.name = name := Roster.name_of_get? hf
    have hredefined := hinstalls.redefined hp
    have hpresents := hinstalls.presents hp h.send hanswers
    dsimp only at hredefined
    rw [hf] at hredefined
    exact ⟨f, v, hf, hredefined, rfl, hpresents⟩
  · obtain ⟨f, v₁, v₂, hf, hfirst, hsecond⟩ := installs_toggle_twice hp hs h₁ h₂
    obtain rfl : f.name = name := Roster.name_of_get? hf
    obtain ⟨first, hs₁⟩ := (hfirst.lasts hp).history
    obtain ⟨second, hs₂⟩ := (hsecond.lasts hp).history
    refine ⟨roster_of_installs_twice hp hf hfirst hsecond, f, first, second, hf, hs₁.symm,
      hs₂.symm, fun l hl ha hl₁ ha₂ => ?_, fun hquiet l ha => ?_⟩
    · exact handed_of_installs_twice hs₁.symm hs₂.symm hp hfirst hsecond hl ha hl₁ ha₂
    · obtain ⟨g, w₁, w₂, hg, hfirst, hsecond⟩ :=
        installs_toggle_twice (fun _ ho => absurd ho Bool.false_ne_true) hquiet h₁ h₂
      obtain rfl := Option.some.inj (hf.symm.trans hg)
      exact received_of_installs_twice hs₁.symm hs₂.symm hfirst hsecond ha

/-! ## Twins with a drifted topic -/

/-- Three flags, of which two have one name, and a callback and a reader of that name; the topic has
another value than the flag. -/
def driftedTwins : Switchboard :=
  { ofRoster [⟨"g", false, .unrestricted⟩, oldTwin, newTwin] with
    signals := [("f", ⟨false, [0, 1]⟩)]
    listeners := [.callback "w" "f" [], .reader "f" none false] }

/-- The request to toggle the twins. -/
def toggling : Request := ⟨"POST", "/api/features/f/toggle", []⟩

/-- The request to turn the twins off. -/
def turningOff : Request :=
  ⟨"PUT", "/api/features/f", Utf8.encode (Json.obj [("enabled", .bool false)]).render⟩

/-- What is shown of the first twin in a state. -/
def twinRow (enabled : Bool) : Json := rowOf ⟨"f", enabled, ⟨["<5"], []⟩⟩ ⟨some false, none⟩

theorem succeeds_toggling : ∃ s₁ s₂,
    Succeeds hostOfTen (.toggle "f") toggling driftedTwins (.of 200 (twinRow false)) s₁ ∧
    Succeeds hostOfTen (.toggle "f") toggling s₁ (.of 200 (twinRow true)) s₂ := by
  have hroute : Route.find toggling.method (Target.path toggling.target) = .call (.toggle "f") := by
    decide +kernel
  refine ⟨_, _, ⟨hroute, run_respond hroute rfl (by decide +kernel), rfl⟩,
    ⟨hroute, run_respond hroute rfl (by decide +kernel), rfl⟩⟩

theorem read_turningOff : turningOff.read Replacement.decode = .ok ⟨false, none⟩ := by
  have hdocument : turningOff.document = .ok (.obj [("enabled", .bool false)]) :=
    document_of_readsAs
      (Json.readsAs_obj (.cons (Json.fieldReadsAs rfl (Json.readsAs_bool false)) .nil)) (by decide)
      _ _
  rw [Request.read, hdocument]
  rfl

theorem succeeds_turningOff : ∃ s',
    Succeeds hostOfTen (.replace "f") turningOff driftedTwins (.of 200 (twinRow false)) s' := by
  have hroute : Route.find turningOff.method (Target.path turningOff.target)
      = .call (.replace "f") := by
    decide +kernel
  have hanswer : outcome (answer hostOfTen turningOff (.replace "f")) driftedTwins
      = .ok (.of 200 (twinRow false)) := by
    rw [answer, replace, read_turningOff]
    rfl
  exact ⟨_, hroute, run_respond hroute (Prod.ext hanswer rfl) (by decide +kernel), rfl⟩

/-- The twins are turned off, or toggled and toggled back: the first of them changes, the other
flags do not, and both listeners hear that the flag is off, and then that it is on. -/
theorem redefines_first_of_twins :
    (∃ s', Succeeds hostOfTen (.replace "f") turningOff driftedTwins (.of 200 (twinRow false)) s' ∧
      Roster.Redefined ⟨"f", false, oldTwin.condition⟩ (some oldTwin) driftedTwins.roster
        s'.roster ∧
      Presents hostOfTen "f" (twinRow false) s') ∧
    ∃ (s₁ s₂ : Switchboard) (h₁ h₂ : List Event),
      Succeeds hostOfTen (.toggle "f") toggling driftedTwins (.of 200 (twinRow false)) s₁ ∧
      Roster.Redefined ⟨"f", false, oldTwin.condition⟩ (some oldTwin) driftedTwins.roster
        s₁.roster ∧
      Presents hostOfTen "f" (twinRow false) s₁ ∧
      Succeeds hostOfTen (.toggle "f") toggling s₁ (.of 200 (twinRow true)) s₂ ∧
      s₂.roster = driftedTwins.roster ∧ s₂.history = h₁ ++ h₂ ∧
      driftedTwins.value "f" = false ∧ oldTwin.enabled = true ∧
      received 0 h₁ = [false] ∧ received 0 h₂ = [true] ∧
      received 1 h₁ = [false] ∧ received 1 h₂ = [true] := by
  have hanswers : ∀ g ∈ driftedTwins.roster, ∀ n ∈ hostLevel hostOfTen,
      (LevelRule.evaluateAny g.condition.levels n).answer.isOk := by decide +kernel
  obtain ⟨hreplace, htoggle, htwice⟩ := redefines_first_of_name (s := driftedTwins) rfl hanswers "f"
  constructor
  · obtain ⟨s', h⟩ := succeeds_turningOff
    obtain ⟨e, f, v, he, hname, henabled, hcondition, -, hredefined, hv, hpresents⟩ :=
      hreplace _ _ _ h
    obtain rfl := Except.ok.inj (read_turningOff.symm.trans he)
    obtain rfl : twinRow false = v := by cases hv; rfl
    obtain ⟨name, enabled, condition⟩ := f
    obtain rfl : name = "f" := hname
    obtain rfl : enabled = false := henabled
    obtain rfl : condition = oldTwin.condition := hcondition
    exact ⟨s', h, hredefined, hpresents⟩
  · obtain ⟨s₁, s₂, h₁, h₂⟩ := succeeds_toggling
    obtain ⟨f, v, hf, hredefined, hv, hpresents⟩ := htoggle _ _ _ h₁
    obtain rfl : oldTwin = f := Option.some.inj hf
    obtain rfl : twinRow false = v := by cases hv; rfl
    obtain ⟨hroster, f, first, second, hf, hs₁, hs₂, -, hquiet⟩ := htwice _ _ _ _ _ _ h₁ h₂
    obtain rfl : oldTwin = f := Option.some.inj hf
    have hcallback := hquiet rfl 0 ⟨_, rfl, rfl⟩
    have hreader := hquiet rfl 1 ⟨_, rfl, rfl⟩
    rw [hs₁] at hs₂
    exact ⟨s₁, s₂, first, second, h₁, hredefined, hpresents, h₂, hroster, hs₂, rfl, rfl,
      hcallback.1, hcallback.2, hreader.1, hreader.2⟩

end Panel

end FeatureFlags

import FeatureFlags.Panel.Exchange
import FeatureFlags.Proofs.Panel.Bodies
import FeatureFlags.Proofs.Panel.Rows

/-!
# Proofs/Panel/Refusals — a request that is refused changes nothing

A response with a status of 400 or more refuses the request.  A call that comes to change something
does not refuse any more (`Accepts`): what it could refuse is looked for before.  So every call
leaves the switchboard as it was when it refuses, but for records (`Noted`), and those who listen
receive nothing meanwhile (`exchange_refused`).
-/

namespace FeatureFlags

namespace Panel

open Switchboard

variable {α : Type} {settings : Settings} {r : Request} {s s' : Switchboard}

/-! ## What a refusal leaves -/

/-- **Nothing but records has been left.** -/
def Noted (s s' : Switchboard) : Prop := ∃ records, s' = { s with records := s.records ++ records }

instance : Std.Refl Noted := ⟨fun s => ⟨[], by rw [List.append_nil]⟩⟩

instance : Trans Noted Noted Noted where
  trans := by
    rintro s _ _ ⟨records, rfl⟩ ⟨more, rfl⟩
    exact ⟨records ++ more, by rw [List.append_assoc]⟩

theorem noted_refuse (x : Fault) : Keeps Noted (refuse x) :=
  .of_bind (.of_modify fun _ => ⟨_, rfl⟩) fun _ => .of_pure _

/-- **An action that does not refuse**: no response of it has a status of 400 or more. -/
def Accepts (x : Action Response) : Prop :=
  ∀ s response s', x.run s = (.ok response, s') → response.status < 400

theorem Accepts.of_pure {response : Response} (h : response.status < 400) :
    Accepts (pure response) := by
  intro s response' s' hrun
  obtain ⟨rfl, rfl⟩ := run_pure_eq_ok hrun
  exact h

theorem accepts_of {status : Nat} (h : status < 400) (v : Json) :
    Accepts (pure (.of status v)) := .of_pure h

theorem Accepts.of_bind {x : Action α} {f : α → Action Response} (h : ∀ a, Accepts (f a)) :
    Accepts (x >>= f) := by
  intro s response s' hrun
  obtain ⟨a, t, -, hrun⟩ := run_bind_eq_ok hrun
  exact h a t response s' hrun

/-- **An action that changes nothing when it refuses.** -/
def RefusesIdly (x : Action Response) : Prop :=
  ∀ s response s', x.run s = (.ok response, s') → 400 ≤ response.status → Noted s s'

namespace RefusesIdly

theorem of_accepts {x : Action Response} (h : Accepts x) : RefusesIdly x :=
  fun s response s' hrun hstatus => absurd (h s response s' hrun) (Nat.not_lt.2 hstatus)

theorem of_keeps {x : Action Response} (h : Keeps Noted x) : RefusesIdly x := by
  intro s response s' hrun _
  have hs := h s
  rwa [after, hrun] at hs

theorem of_get {f : Switchboard → Action Response} (h : ∀ s, RefusesIdly (f s)) :
    RefusesIdly (get >>= f) := fun s response s' hrun => h s s response s' hrun

end RefusesIdly

/-! ## Each call refuses before it changes anything -/

theorem accepts_hostRow {status : Nat} (hstatus : status < 400) (f : Flag) :
    Accepts (do return .of status (← hostRow settings f)) :=
  .of_bind fun v => accepts_of hstatus v

theorem refusesIdly_create : RefusesIdly (create settings r) := by
  unfold create
  cases r.read (Flag.decode .modelAttributesType) with
  | error => exact .of_keeps (.of_pure _)
  | ok f => exact .of_accepts (.of_bind fun _ => accepts_hostRow (by decide) f)

theorem refusesIdly_read (name : Text) : RefusesIdly (read settings name r) := by
  unfold read
  cases r.level with
  | error => exact .of_keeps (.of_pure _)
  | ok level =>
    refine .of_get fun s => ?_
    cases s.roster.get? name with
    | none => exact .of_keeps (noted_refuse _)
    | some f => exact .of_accepts (.of_bind fun v => accepts_of (by decide) v)

/-- A name of blanks is noticed after the flag of that name has been looked up, and before the
flags are changed. -/
theorem refusesIdly_replace (name : Text) : RefusesIdly (replace settings name r) := by
  unfold replace
  cases r.read Replacement.decode with
  | error => exact .of_keeps (.of_pure _)
  | ok replacement =>
    refine .of_get fun s => ?_
    dsimp only
    split
    · exact .of_accepts (.of_bind fun _ => accepts_hostRow (by decide) _)
    · exact .of_keeps (noted_refuse _)

theorem refusesIdly_toggle (name : Text) : RefusesIdly (toggle settings name) := by
  refine .of_get fun s => ?_
  cases s.roster.get? name with
  | none => exact .of_keeps (noted_refuse _)
  | some f =>
    exact .of_accepts (.of_bind fun _ => .of_bind fun _ => accepts_hostRow (by decide) _)

/-- **Whatever is called for, a refusal changes nothing.** -/
theorem refusesIdly_answer (c : Call) : RefusesIdly (answer settings r c) := by
  cases c with
  | health => exact .of_accepts (.of_bind fun _ => accepts_of (by decide) _)
  | list => exact .of_accepts (.of_bind fun _ => .of_bind fun _ => accepts_of (by decide) _)
  | create => exact refusesIdly_create
  | clear => exact .of_accepts (.of_bind fun _ => .of_pure (by decide))
  | read name => exact refusesIdly_read name
  | replace name => exact refusesIdly_replace name
  | toggle name => exact refusesIdly_toggle name
  | stream => exact .of_accepts (.of_pure (by decide))

theorem refusesIdly_reply : RefusesIdly (reply settings r) := by
  unfold reply
  cases Route.find r.method (Target.path r.target) with
  | unknown | wrongMethod | redirection => exact .of_keeps (.of_pure _)
  | call c => exact refusesIdly_answer c

theorem refusesIdly_respond : RefusesIdly (respond settings r) := fun s response s' hrun =>
  refusesIdly_reply s response s' (run_reply_of_respond hrun).1

/-- **A request that is refused changes nothing**, whatever it asks for and however the switchboard
stands: flags, signals, their values and those who listen to them are as before, nobody receives a
value, and all that is left is a record of it. -/
theorem exchange_refused {x : Exchange} (h : (exchange settings r).run s = (.ok x, s'))
    (hstatus : 400 ≤ x.response.status) :
    x.events = [] ∧ ∃ records, s' = { s with records := s.records ++ records } := by
  obtain ⟨_, t, ht, h⟩ := run_bind_eq_ok h
  obtain ⟨rfl, rfl⟩ : _ = _ ∧ s = t := run_pure_eq_ok ht
  obtain ⟨response, t, hrespond, h⟩ := run_bind_eq_ok h
  obtain ⟨_, t', ht', h⟩ := run_bind_eq_ok h
  obtain ⟨rfl, rfl⟩ : t = _ ∧ t = t' := run_pure_eq_ok ht'
  obtain ⟨rfl, rfl⟩ := run_pure_eq_ok h
  obtain ⟨records, rfl⟩ := refusesIdly_respond s response t hrespond hstatus
  refine ⟨?_, records, rfl⟩
  -- the history is the one there was, and nothing stands behind its end
  dsimp only
  rw [List.drop_length]
  rfl

/-! ## A flag without a name -/

/-- What is answered, and what was received until then. -/
theorem run_exchange {response : Response} (h : (respond settings r).run s = (.ok response, s')) :
    (exchange settings r).run s
      = (.ok ⟨response, s'.shown (s'.history.drop s.history.length)⟩, s') := by
  rw [exchange, run_bind, run_get]
  dsimp only
  rw [run_bind, h]
  rfl

/-- Two flags of one name, and somebody who listens to it. -/
def watchedTwins : Switchboard := watch ["f"] (ofRoster [oldTwin, newTwin])

/-- The request to define a flag whose name is a blank, or to turn it on. -/
def namelessRequest : Request :=
  ⟨"PUT", "/api/features/%20", Utf8.encode (Json.obj [("enabled", .bool true)]).render⟩

/-- The fault of a name that is a blank. -/
def namelessFault : Fault := .invalid " " (blankReason " ")

/-- The refusal, and that nobody received anything. -/
def namelessExchange : Exchange := ⟨.fault namelessFault, []⟩

/-- What is left of the refusal. -/
def namelessRecord : Record :=
  ⟨.warning, namelessFault.code.name ++ ": " ++ namelessFault.message⟩

theorem route_nameless : Route.find namelessRequest.method (Target.path namelessRequest.target)
    = .call (.replace " ") := by
  decide +kernel

theorem document_nameless : namelessRequest.document = .ok (.obj [("enabled", .bool true)]) :=
  document_of_readsAs (Json.readsAs_obj (.cons (Json.fieldReadsAs rfl (Json.readsAs_bool true)) .nil))
    (by decide) _ _

theorem run_nameless : (respond hostOfTen namelessRequest).run watchedTwins
    = (.ok (.fault namelessFault),
      { watchedTwins with records := watchedTwins.records ++ [namelessRecord] }) := by
  have hread : namelessRequest.read Replacement.decode = .ok ⟨true, none⟩ := by
    rw [Request.read, document_nameless]
    rfl
  refine run_respond route_nameless ?_ (by decide +kernel)
  rw [answer, replace, hread]
  rfl

theorem exchange_refused_nameless :
    (exchange hostOfTen namelessRequest).run watchedTwins
      = (.ok namelessExchange,
        { watchedTwins with records := watchedTwins.records ++ [namelessRecord] }) ∧
    400 ≤ namelessExchange.response.status ∧
    namelessExchange.events = [] ∧
    ∃ records, { watchedTwins with records := watchedTwins.records ++ [namelessRecord] }
      = { watchedTwins with records := watchedTwins.records ++ records } := by
  have hrun := run_exchange run_nameless
  exact ⟨hrun, by decide, exchange_refused hrun (by decide)⟩

end Panel

end FeatureFlags

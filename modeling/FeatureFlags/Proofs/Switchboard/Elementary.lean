import FeatureFlags.Proofs.Switchboard.Conduct

/-!
# Proofs/Switchboard/Elementary — what every elementary change keeps

Whatever is done to listeners and signals comes down to few elementary changes: something other
than flags and listeners changes while the history at most grows (`Aside`), a listener is enrolled,
or one is changed, but never so that it is available again (`Listener.isAvailable`).  A relation that
these keep is `Elementary`.  It is kept by every operation that changes no flags, provided that
callbacks keep it (`Elementary.execute`), and so by callbacks that do nothing but perform such
operations, however deep they are nested (`Elementary.conduct`).
-/

namespace FeatureFlags

/-- The flags stay as they are. -/
def Operation.keepsFlags : Operation → Bool
  | .change _ => false
  | _ => true

namespace Listener

/-- **An inbox is stranded** if its event loop is closed. -/
def isStranded : Listener → Bool
  | .inbox _ .closed _ _ => true
  | _ => false

/-- **A listener is available** unless it is closed or stranded. -/
def isAvailable (x : Listener) : Bool := !x.closed && !x.isStranded

theorem isAvailable_store (value : Bool) (x : Listener) :
    (x.store value).isAvailable = x.isAvailable := by
  rcases x with _ | _ | ⟨_, _, _ | _⟩ | ⟨_, _ | _ | _, _, _ | _⟩ <;> rfl

theorem isAvailable_take (x : Listener) : x.take.isAvailable = x.isAvailable := by
  rcases x with _ | _ | _ | ⟨_, _ | _ | _, _, _⟩ <;> rfl

theorem isAvailable_withScript (script : Script) (x : Listener) :
    (x.withScript script).isAvailable = x.isAvailable := by
  rcases x with _ | _ | _ | ⟨_, _ | _ | _, _, _⟩ <;> rfl

theorem isAvailable_of_close {x : Listener} (h : x.close.isAvailable) : x.isAvailable := by
  cases x with
  | callback | recorder => rfl
  | reader | inbox => cases h

theorem isAvailable_of_closeLoop {x : Listener} (h : x.closeLoop.isAvailable) : x.isAvailable := by
  cases x with
  | inbox topic loop unread closed =>
    -- the loop is closed, so the inbox is stranded
    cases closed <;> cases h
  | _ => exact h

end Listener

namespace Switchboard

variable {react : React} {s s' : Switchboard} {R : Switchboard → Switchboard → Prop}

theorem Keeps.of_withNamed [Std.Refl R] {register : Register} {id : Text}
    {f : ListenerId → Action Answer} (hf : ∀ l, Keeps R (f l)) :
    Keeps R (withNamed register id f) := by
  refine .of_get fun s => ?_
  cases s.named? register id with
  | none => exact .of_pure _
  | some l => exact hf l

/-- **Something aside from flags and listeners changes**, and the history may grow by it. -/
structure Aside (s s' : Switchboard) : Prop where
  roster : s'.roster = s.roster
  listeners : s'.listeners = s.listeners
  history : s.history <+: s'.history

theorem aside_ensure (topic : Text) (b : Bool) (s : Switchboard) : Aside s (s.ensure topic b) := by
  refine ⟨roster_ensure topic b s, listeners_ensure topic b s, ?_⟩
  unfold ensure
  split
  · exact List.prefix_rfl
  · exact List.prefix_append _ _

theorem aside_write (topic : Text) (value : Bool) (s : Switchboard) :
    Aside s (s.write topic value) := ⟨rfl, rfl, List.prefix_append _ _⟩

theorem aside_deliver (l : ListenerId) (value : Bool) (s : Switchboard) :
    Aside s (s.deliver l value) := ⟨rfl, rfl, List.prefix_append _ _⟩

theorem aside_written (w : Writing) (s : Switchboard) : Aside s (s.written w) := by
  have hensure := aside_ensure w.topic w.initial s
  exact ⟨hensure.roster, hensure.listeners, hensure.history.trans (List.prefix_append _ _)⟩

theorem Recorded.aside (h : Recorded s s') : Aside s s' := by
  rw [h]
  exact ⟨rfl, rfl, List.prefix_rfl⟩

/-- **A relation that elementary changes keep.** -/
structure Elementary (R : Switchboard → Switchboard → Prop) : Prop where
  aside {s s' : Switchboard} (h : Aside s s') : R s s'
  enroll (x : Listener) (s : Switchboard) : R s (s.enrolled x)
  change {f : Listener → Listener} (hf : ∀ x, (f x).isAvailable → x.isAvailable)
    (l : ListenerId) (s : Switchboard) : R s (s.modifyListener l f)

namespace Elementary

variable (hR : Elementary R)

include hR

/-- A change aside that leaves the history as it is. -/
theorem silent {f : Switchboard → Switchboard} (hroster : ∀ s, (f s).roster = s.roster)
    (hlisteners : ∀ s, (f s).listeners = s.listeners) (hhistory : ∀ s, (f s).history = s.history) :
    Keeps R (modify f : Action Unit) :=
  .of_modify fun s => hR.aside ⟨hroster s, hlisteners s, (hhistory s).symm ▸ List.prefix_rfl⟩

theorem ensure (topic : Text) (b : Bool) : Keeps R (modify (Switchboard.ensure topic b)) :=
  .of_modify fun s => hR.aside (aside_ensure topic b s)

theorem deliver (l : ListenerId) (value : Bool) : Keeps R (modify (Switchboard.deliver l value)) :=
  .of_modify fun s => hR.aside (aside_deliver l value s)

theorem recorded {α : Type} {a : Action α} (h : Keeps Recorded a) : Keeps R a :=
  fun s => hR.aside (h s).aside

theorem note (severity : Severity) (message : Text) : Keeps R (note severity message) :=
  hR.recorded (recorded_note severity message)

theorem detach (topic : Text) (l : ListenerId) : Keeps R (modify (Switchboard.detach topic l)) :=
  hR.silent (fun _ => rfl) (fun _ => rfl) fun _ => rfl

theorem wake (l : ListenerId) : Keeps R (modify (Switchboard.wake l)) :=
  hR.silent (fun _ => rfl) (fun _ => rfl) fun _ => rfl

theorem name (register : Register) (id : Text) (l : ListenerId) :
    Keeps R (modify (Switchboard.name register id l)) :=
  hR.silent (fun _ => rfl) (fun _ => rfl) fun _ => rfl

theorem close (l : ListenerId) : Keeps R (modify (modifyListener l (·.close))) :=
  .of_modify fun s => hR.change (fun _ => Listener.isAvailable_of_close) l s

theorem rewritten (l : ListenerId) (f : Script → Script) (s : Switchboard) :
    R s (s.rewritten l f) :=
  hR.change (fun x h => by rwa [Listener.isAvailable_withScript] at h) l s

variable [Std.Refl R] [Trans R R R]

/-! ## Handing values out -/

section

variable (h : ∀ l value, Keeps R (react l value))

include h

theorem hand (value : Bool) (l : ListenerId) : Keeps R (hand react value l) := by
  refine .of_getListener fun x => ?_
  cases x with
  | none => exact .of_pure ()
  | some x =>
    cases x with
    | callback label topic script =>
      exact .of_bind (hR.deliver l value) fun _ => .of_tryCatch (h l value) fun _ => hR.note _ _
    | recorder label script => exact .of_bind (hR.deliver l value) fun _ => h l value
    | reader topic unread closed =>
      cases closed with
      | true => exact .of_pure ()
      | false =>
        refine .of_bind (hR.deliver l value) fun _ => .of_bind (.of_modify fun s => ?_)
          fun _ => hR.wake l
        exact hR.change (fun x hx => by rwa [Listener.isAvailable_store] at hx) l s
    | inbox topic loop unread closed =>
      cases loop with
      | running =>
        exact .of_bind (hR.deliver l value) fun _ =>
          hR.silent (fun _ => rfl) (fun _ => rfl) fun _ => rfl
      | idle => exact hR.deliver l value
      | closed =>
        exact .of_bind (hR.note _ _) fun _ => .of_bind (hR.close l) fun _ => hR.detach topic l

theorem set (topic : Text) (value : Bool) : Keeps R (set react topic value) := by
  refine .of_bind (hR.ensure topic false) fun _ =>
    .of_bind (.of_modify fun s => hR.aside (aside_write topic value s)) fun _ => ?_
  exact .of_get fun s => .of_forM (hR.hand h value) (s.attached topic)

theorem publish (topic : Text) (value : Bool) : Keeps R (publish react topic value) :=
  .of_bind (hR.ensure topic value) fun _ => .of_bind (hR.set h topic value) fun _ => hR.note _ _

theorem join (topic : Text) (l : ListenerId) : Keeps R (join react topic l) :=
  .of_bind (hR.silent (fun _ => rfl) (fun _ => rfl) fun _ => rfl) fun _ =>
    .of_get fun s => hR.hand h (s.value topic) l

theorem enter (topic : Text) (x : Listener) : Keeps R (enter react topic x) :=
  .of_bind (fun s => hR.enroll x s) fun l => .of_bind (hR.join h topic l) fun _ => .of_pure l

end

/-! ## Single listeners -/

theorem recorder (id : Text) (script : Script) : Keeps R (recorder id script) := by
  refine .of_get fun s => ?_
  cases s.named? .recorder id with
  | some l => exact .of_pure l
  | none =>
    exact .of_bind (fun s => hR.enroll _ s) fun l => .of_bind (hR.name _ id l) fun _ => .of_pure l

theorem shut (l : ListenerId) : Keeps R (shut l) := by
  refine .of_getListener fun x => ?_
  cases x with
  | none => exact .of_pure ()
  | some x =>
    by_cases hc : x.closed = true
    · simp only [hc, if_true]
      exact .of_pure ()
    · simp only [hc, Bool.false_eq_true, if_false]
      refine .of_bind (hR.close l) fun _ => .of_bind (hR.wake l) fun _ => ?_
      cases x.topic? with
      | none => exact .of_pure ()
      | some topic => exact hR.detach topic l

theorem unsubscribe (id : Text) : Keeps R (unsubscribe id) := by
  refine .of_get fun s => ?_
  cases s.named? .subscription id with
  | none => exact .of_pure false
  | some l =>
    dsimp only
    cases (s.listener? l).bind Listener.topic? with
    | none => exact .of_pure false
    | some topic => exact .of_bind (hR.detach topic l) fun _ => .of_pure true

theorem takeUnread (l : ListenerId) : Keeps R (takeUnread l) := by
  refine .of_getListener fun _ => .of_bind (.of_modify fun s => ?_) fun _ => .of_pure _
  exact hR.change (fun x hx => by rwa [Listener.isAvailable_take] at hx) l s

theorem next (l : ListenerId) : Keeps R (next l) := by
  refine .of_bind (.of_getListener fun _ => .of_pure _) fun b => ?_
  cases b with
  | true => exact .of_pure _
  | false =>
    refine .of_bind (hR.takeUnread l) fun unread => ?_
    cases unread <;> exact .of_pure _

/-! ## Operations -/

/-- **An operation that changes no flags keeps what elementary changes keep**, if callbacks do. -/
theorem execute (h : ∀ l value, Keeps R (react l value)) {o : Operation} (ho : o.keepsFlags) :
    Keeps R (execute react o) := by
  have hanswer {γ : Type} {a : Action γ} (ha : Keeps R a) (f : γ → Answer) :
      Keeps R (a >>= fun x => pure (f x)) := .of_bind ha fun _ => .of_pure _
  cases o with
  | change c => exact absurd ho Bool.false_ne_true
  | query q => exact hR.recorded (recorded_ask q)
  | publish topic value => exact hanswer (hR.publish h topic value) _
  | current topic => exact .of_get fun _ => .of_pure _
  | known topic => exact .of_get fun _ => .of_pure _
  | signal topic initial =>
    exact .of_bind (hR.ensure topic initial) fun _ => .of_get fun _ => .of_pure _
  | set topic value => exact hanswer (hR.set h topic value) _
  | count topic => exact .of_bind (hR.ensure topic false) fun _ => .of_get fun _ => .of_pure _
  | subscribe id topic initial script =>
    refine hanswer (.of_get fun s => ?_) _
    exact .of_bind (hR.ensure topic _) fun _ => .of_bind (hR.enter h topic _) fun l =>
      hR.name _ id l
  | unsubscribe id =>
    refine .of_bind (hR.unsubscribe id) fun b => ?_
    cases b <;> exact .of_pure _
  | attach id topic script =>
    exact .of_bind (hR.ensure topic false) fun _ => .of_bind (hR.recorder id script)
      fun l => hanswer (hR.join h topic l) _
  | detach id topic script =>
    exact .of_bind (hR.ensure topic false) fun _ => .of_bind (hR.recorder id script)
      fun l => .of_bind (hR.detach topic l) fun _ => .of_pure _
  | observe id topic initial =>
    refine hanswer (.of_get fun s => ?_) _
    exact .of_bind (hR.ensure topic _) fun _ => .of_bind (hR.enter h topic _) fun l =>
      hR.name _ id l
  | poll id => exact .of_withNamed fun l => hanswer (hR.takeUnread l) _
  | next id => exact .of_withNamed fun l => hR.next l
  | close id => exact .of_withNamed fun l => hanswer (hR.shut l) _
  | isClosed id => exact .of_withNamed fun l => hanswer (.of_getListener fun _ => .of_pure _) _
  | topicOf id => exact .of_withNamed fun l => .of_getListener fun _ => .of_pure _
  | observeAsync id topic initial loop =>
    have henter : Keeps R (enterAsync react topic initial loop) := by
      refine .of_get fun s => .of_bind (hR.ensure topic _) fun _ => .of_get fun s' => ?_
      by_cases hloop : loop = .running ∧ s'.onWorker
      · rw [if_pos hloop]
        exact .of_throw _
      · rw [if_neg hloop]
        exact hR.enter h topic _
    exact hanswer (.of_bind henter fun l => hR.name _ id l) _
  | closeLoop id =>
    refine .of_withNamed fun l => .of_bind (.of_modify fun s => ?_) fun _ => .of_pure _
    exact hR.change (fun _ => Listener.isAvailable_of_closeLoop) l s

/-- **So do callbacks** that perform such operations, and callbacks called meanwhile. -/
theorem conduct (h : Conduct (fun o _ => o.keepsFlags = true) s s') : R s s' :=
  h.keeps (fun l f s => hR.rewritten l f s) fun hreact ho => hR.execute hreact ho _

theorem lawful (h : Lawful (fun o _ => o.keepsFlags = true) react) (l : ListenerId)
    (value : Bool) : Keeps R (react l value) := fun s => hR.conduct (h l value s)

end Elementary

end Switchboard

end FeatureFlags

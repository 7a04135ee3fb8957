import FeatureFlags.Proofs.Switchboard.Effect

/-!
# Proofs/Switchboard/Scripts — what scripts come to

A script is a finite tree of operations: its triggers perform operations, which give scripts to
other callbacks.  If all operations of the tree are allowed (`within`), it stays so: an operation puts no
script into the switchboard but its own, and triggers that are used up do the same as before.

What callbacks do elsewhere does not matter then.  If two of them do the same wherever all scripts
are within what is allowed, so do operations that call them (`alongside_execute`).
-/

namespace FeatureFlags

/-! ## What scripts come to -/

mutual

/-- An operation is allowed, and so is all that callbacks come to do because of it. -/
def Operation.within (p : Operation → Bool) : Operation → Bool
  | .subscribe id topic initial script =>
    p (.subscribe id topic initial script) && Script.within p script
  | .attach id topic script => p (.attach id topic script) && Script.within p script
  | .detach id topic script => p (.detach id topic script) && Script.within p script
  | o => p o

/-- What a trigger does is allowed. -/
def Trigger.within (p : Operation → Bool) : Trigger → Bool
  | .fail _ _ => true
  | .perform _ _ operation => operation.within p

/-- All that a script comes to is allowed. -/
def Script.within (p : Operation → Bool) : List Trigger → Bool
  | [] => true
  | t :: script => t.within p && Script.within p script

end

namespace Operation

/-- The script that an operation gives to a callback. -/
def script : Operation → Script
  | .subscribe _ _ _ script => script
  | .attach _ _ script => script
  | .detach _ _ script => script
  | _ => []

theorem within_eq (p : Operation → Bool) (o : Operation) :
    o.within p = (p o && Script.within p o.script) := by
  cases o <;> simp [within, script, Script.within]

end Operation

/-- What is in a list of which one element was changed. -/
theorem mem_of_mem_modify {α : Type} {f : α → α} {xs : List α} {i : Nat} {y : α}
    (h : y ∈ xs.modify i f) : y ∈ xs ∨ ∃ x ∈ xs, y = f x := by
  obtain ⟨j, hj⟩ := List.mem_iff_getElem?.1 h
  rw [List.getElem?_modify] at hj
  obtain ⟨x, hx, rfl⟩ := Option.map_eq_some_iff.1 hj
  have hmem : x ∈ xs := List.mem_of_getElem? hx
  split
  · exact .inr ⟨x, hmem, rfl⟩
  · exact .inl hmem

section

variable {p : Operation → Bool}

theorem Script.within_iff {script : Script} :
    Script.within p script ↔ ∀ t ∈ script, t.within p := by
  induction script with
  | nil => simp [within]
  | cons t script ih => simp [within, ih]

theorem Trigger.within_spent (t : Trigger) : t.spent.within p = t.within p := by
  cases t <;> rfl

/-- A trigger that is used up by one does the same. -/
theorem Script.within_spent {script : Script} (h : Script.within p script) (i : Nat) :
    Script.within p (script.modify i (·.spent)) := by
  rw [Script.within_iff] at h ⊢
  intro t ht
  rcases mem_of_mem_modify ht with ht | ⟨u, hu, rfl⟩
  · exact h t ht
  · rw [Trigger.within_spent]
    exact h u hu

end

/-- A listener that is closed keeps its script. -/
theorem Listener.within_close {p : Operation → Bool} (x : Listener)
    (h : Script.within p x.script) : Script.within p x.close.script := by
  cases x <;> exact h

namespace Switchboard

variable {p : Operation → Bool} {s s' : Switchboard} {react react' : React} {α β : Type}

/-- **All scripts are within** what is allowed. -/
def within (p : Operation → Bool) (s : Switchboard) : Bool :=
  s.listeners.all fun x => Script.within p x.script

theorem within_iff : s.within p ↔ ∀ x ∈ s.listeners, Script.within p x.script := List.all_eq_true

theorem within_alike (h : Alike s s') : s'.within p = s.within p := by
  have hbare (s : Switchboard) :
      s.within p = (s.listeners.map Listener.bare).all fun x => Script.within p x.script := by
    rw [within, List.all_map]
    refine congrArg s.listeners.all (funext fun x => ?_)
    cases x <;> rfl
  rw [hbare, h.kinds, hbare]

theorem within_ensure (topic : Text) (initial : Bool) (s : Switchboard) :
    (s.ensure topic initial).within p = s.within p := by
  rw [within, listeners_ensure, within]

theorem within_enrolled {x : Listener} (h : s.within p) (hx : Script.within p x.script) :
    (s.enrolled x).within p := by
  rw [within_iff] at h ⊢
  intro y hy
  rcases List.mem_append.1 hy with hy | hy
  · exact h y hy
  · rwa [List.mem_singleton.1 hy]

theorem within_modifyListener {f : Listener → Listener} (h : s.within p) (l : ListenerId)
    (hf : ∀ x, Script.within p x.script → Script.within p (f x).script) :
    (s.modifyListener l f).within p := by
  rw [within_iff] at h ⊢
  intro y hy
  rcases mem_of_mem_modify hy with hy | ⟨x, hx, rfl⟩
  · exact h y hy
  · exact hf x (h x hx)

/-! ## Actions that do the same -/

/-- **Two actions go alongside** each other: where all scripts are within what is allowed they do
the same, and all scripts stay within it. -/
def Alongside (p : Operation → Bool) (a b : Action α) : Prop :=
  ∀ s, s.within p → a.run s = b.run s ∧ (after a s).within p

namespace Alongside

theorem of_pure (a : α) : Alongside p (pure a) (pure a) := fun _ hs => ⟨rfl, hs⟩

theorem of_throw (e : Failure) : Alongside p (throw e : Action α) (throw e) :=
  fun _ hs => ⟨rfl, hs⟩

theorem of_modify {f : Switchboard → Switchboard} (hf : ∀ s, s.within p → (f s).within p) :
    Alongside p (modify f : Action Unit) (modify f) := fun s hs => ⟨rfl, hf s hs⟩

theorem of_unnoticed {a : Action α} (h : Unnoticed a) : Alongside p a a := by
  intro s hs
  refine ⟨rfl, ?_⟩
  rwa [within_alike (h s)]

theorem of_get {f g : Switchboard → Action β} (h : ∀ s, Alongside p (f s) (g s)) :
    Alongside p (get >>= f) (get >>= g) := fun s hs => h s s hs

theorem of_getListener {l : ListenerId} {f g : Option Listener → Action β}
    (h : ∀ x, Alongside p (f x) (g x)) : Alongside p (getListener l >>= f) (getListener l >>= g) :=
  fun s hs => h _ s hs

theorem of_bind {a b : Action α} {f g : α → Action β} (h : Alongside p a b)
    (hf : ∀ x, Alongside p (f x) (g x)) : Alongside p (a >>= f) (b >>= g) := by
  intro s hs
  obtain ⟨heq, hw⟩ := h s hs
  rw [after] at hw
  rw [after, run_bind, run_bind, ← heq]
  rcases hr : a.run s with ⟨_ | x, s'⟩ <;> rw [hr] at hw
  · exact ⟨rfl, hw⟩
  · exact hf x s' hw

theorem of_tryCatch {a b : Action α} {f g : Failure → Action α} (h : Alongside p a b)
    (hf : ∀ e, Alongside p (f e) (g e)) : Alongside p (tryCatch a f) (tryCatch b g) := by
  intro s hs
  obtain ⟨heq, hw⟩ := h s hs
  rw [after] at hw
  rw [after, run_tryCatch, run_tryCatch, ← heq]
  rcases hr : a.run s with ⟨e | _, s'⟩ <;> rw [hr] at hw
  · exact hf e s' hw
  · exact ⟨rfl, hw⟩

theorem of_forM {f g : α → Action Unit} (h : ∀ x, Alongside p (f x) (g x)) (xs : List α) :
    Alongside p (xs.forM f) (xs.forM g) := by
  induction xs with
  | nil => exact of_pure ()
  | cons x xs ih => exact of_bind (h x) fun _ => ih

end Alongside

section

variable (h : ∀ l value, Alongside p (react l value) (react' l value))

include h

/-- Handing a value out calls callbacks and does nothing to scripts. -/
theorem alongside_hand (value : Bool) (l : ListenerId) :
    Alongside p (hand react value l) (hand react' value l) := by
  have hdeliver : Alongside p (modify (deliver l value)) (modify (deliver l value)) :=
    .of_modify fun _ hs => hs
  refine .of_getListener fun x => ?_
  cases x with
  | none => exact .of_pure ()
  | some x =>
    cases x with
    | callback label topic script =>
      exact .of_bind hdeliver fun _ =>
        .of_tryCatch (h l value) fun _ => .of_unnoticed (unnoticed_note _ _)
    | recorder label script => exact .of_bind hdeliver fun _ => h l value
    | reader topic unread closed =>
      cases closed with
      | true => exact .of_pure ()
      | false =>
        refine .of_bind hdeliver fun _ => .of_bind (.of_unnoticed ?_) fun _ => .of_unnoticed ?_
        · exact .of_modify (Alike.modifyListener (Listener.bare_store value) l)
        · exact .of_modify (Alike.wake l)
    | inbox topic loop unread closed =>
      cases loop with
      | running =>
        exact .of_bind hdeliver fun _ => .of_unnoticed (.of_modify (Alike.enqueue l value))
      | idle => exact hdeliver
      | closed =>
        refine .of_bind (.of_unnoticed (unnoticed_note _ _)) fun _ => .of_bind ?_ fun _ => ?_
        · exact .of_modify fun s hs => within_modifyListener hs l Listener.within_close
        · exact .of_modify fun _ hs => hs

theorem alongside_set (topic : Text) (value : Bool) :
    Alongside p (set react topic value) (set react' topic value) := by
  refine .of_bind (.of_modify fun s hs => ?_) fun _ =>
    .of_bind (.of_modify fun _ hs => hs) fun _ => ?_
  · rwa [within_ensure]
  · exact .of_get fun s => .of_forM (alongside_hand h value) (s.attached topic)

theorem alongside_publish (topic : Text) (value : Bool) :
    Alongside p (publish react topic value) (publish react' topic value) := by
  refine .of_bind (.of_modify fun s hs => ?_) fun _ =>
    .of_bind (alongside_set h topic value) fun _ => .of_unnoticed (unnoticed_note _ _)
  rwa [within_ensure]

theorem alongside_change (c : Change) : Alongside p (change react c) (change react' c) := by
  have hroster (f : Roster → Roster) :
      Alongside p (modify fun s => { s with roster := f s.roster })
        (modify fun s => { s with roster := f s.roster }) := .of_modify fun _ hs => hs
  have hnote (severity : Severity) (message : Text) :
      Alongside p (note severity message) (note severity message) :=
    .of_unnoticed (unnoticed_note severity message)
  have hrequire {γ : Type} (x : Checked γ) : Alongside p (require x) (require x) := by
    cases x with
    | ok a => exact .of_pure a
    | error issues => exact .of_throw _
  cases c with
  | save flag =>
    exact .of_bind (hrequire flag) fun f => .of_bind (hroster (·.insert f)) fun _ => hnote _ _
  | saveAll flags =>
    exact .of_bind (hrequire flags) fun fs => .of_bind (hroster (·.insertAll fs)) fun _ => hnote _ _
  | replace flag => exact .of_bind (hrequire flag) fun f => hroster (·.upsert f)
  | empty => exact hroster fun _ => []
  | update flag =>
    exact .of_bind (hrequire flag) fun f => .of_bind (hroster (·.upsert f)) fun _ =>
      .of_bind (alongside_publish h f.name f.enabled) fun _ => hnote _ _
  | clearAll => exact .of_bind (hroster fun _ => []) fun _ => hnote _ _

theorem alongside_join (topic : Text) (l : ListenerId) :
    Alongside p (join react topic l) (join react' topic l) :=
  .of_bind (.of_modify fun _ hs => hs) fun _ =>
    .of_get fun s => alongside_hand h (s.value topic) l

/-- A new listener brings a script along. -/
theorem alongside_enter (topic : Text) {x : Listener} (hx : Script.within p x.script) :
    Alongside p (enter react topic x) (enter react' topic x) := by
  have henroll : Alongside p (enroll x) (enroll x) := fun s hs => ⟨rfl, within_enrolled hs hx⟩
  exact .of_bind henroll fun l => .of_bind (alongside_join h topic l) fun _ => .of_pure l

end

theorem alongside_recorder (id : Text) {script : Script} (hx : Script.within p script) :
    Alongside p (recorder id script) (recorder id script) := by
  have hmake : Alongside p (enroll (.recorder id script)) (enroll (.recorder id script)) :=
    fun s hs => ⟨rfl, within_enrolled hs hx⟩
  refine .of_get fun s => ?_
  cases s.named? .recorder id with
  | some l => exact .of_pure l
  | none => exact .of_bind hmake fun l => .of_bind (.of_modify fun _ hs => hs) fun _ => .of_pure l

theorem alongside_shut (l : ListenerId) : Alongside p (shut l) (shut l) := by
  refine .of_getListener fun x => ?_
  cases x with
  | none => exact .of_pure ()
  | some x =>
    by_cases hc : x.closed = true
    · simp only [hc, if_true]
      exact .of_pure ()
    · simp only [hc, Bool.false_eq_true, if_false]
      refine .of_bind (.of_modify fun s hs => within_modifyListener hs l Listener.within_close)
        fun _ => .of_bind (.of_unnoticed (.of_modify (Alike.wake l))) fun _ => ?_
      cases x.topic? with
      | none => exact .of_pure ()
      | some topic => exact .of_modify fun _ hs => hs

theorem alongside_unsubscribe (id : Text) : Alongside p (unsubscribe id) (unsubscribe id) := by
  refine .of_get fun s => ?_
  cases s.named? .subscription id with
  | none => exact .of_pure false
  | some l =>
    dsimp only
    cases (s.listener? l).bind Listener.topic? with
    | none => exact .of_pure false
    | some topic => exact .of_bind (.of_modify fun _ hs => hs) fun _ => .of_pure true

theorem alongside_withNamed {register : Register} {id : Text} {f : ListenerId → Action Answer}
    (hf : ∀ l, Alongside p (f l) (f l)) :
    Alongside p (withNamed register id f) (withNamed register id f) := by
  refine .of_get fun s => ?_
  cases s.named? register id with
  | none => exact .of_pure _
  | some l => exact hf l

/-- **An operation does the same** with callbacks that do the same, and what it puts into scripts is
its own script. -/
theorem alongside_execute (h : ∀ l value, Alongside p (react l value) (react' l value))
    {o : Operation} (ho : Script.within p o.script) :
    Alongside p (execute react o) (execute react' o) := by
  have hensure (topic : Text) (b : Bool) :
      Alongside p (modify (ensure topic b)) (modify (ensure topic b)) := by
    refine .of_modify fun s hs => ?_
    rwa [within_ensure]
  have hname (register : Register) (id : Text) (l : ListenerId) :
      Alongside p (modify (name register id l)) (modify (name register id l)) :=
    .of_modify fun _ hs => hs
  have hanswer {γ : Type} {a b : Action γ} (hab : Alongside p a b) (f : γ → Answer) :
      Alongside p (a >>= fun x => pure (f x)) (b >>= fun x => pure (f x)) :=
    .of_bind hab fun _ => .of_pure _
  cases o with
  | change c => exact .of_bind (alongside_change h c) fun _ => .of_get fun _ => .of_pure _
  | query q => exact .of_unnoticed (unnoticed_ask q)
  | publish topic value => exact hanswer (alongside_publish h topic value) _
  | current topic => exact .of_get fun _ => .of_pure _
  | known topic => exact .of_get fun _ => .of_pure _
  | signal topic initial =>
    exact .of_bind (hensure topic initial) fun _ => .of_get fun _ => .of_pure _
  | set topic value => exact hanswer (alongside_set h topic value) _
  | count topic => exact .of_bind (hensure topic false) fun _ => .of_get fun _ => .of_pure _
  | subscribe id topic initial script =>
    refine hanswer (.of_get fun s => ?_) _
    exact .of_bind (hensure topic _) fun _ => .of_bind (alongside_enter h topic ho) fun l =>
      hname .subscription id l
  | unsubscribe id =>
    refine .of_bind (alongside_unsubscribe id) fun b => ?_
    cases b <;> exact .of_pure _
  | attach id topic script =>
    exact .of_bind (hensure topic false) fun _ => .of_bind (alongside_recorder id ho) fun l =>
      hanswer (alongside_join h topic l) _
  | detach id topic script =>
    refine .of_bind (hensure topic false) fun _ => .of_bind (alongside_recorder id ho) fun l => ?_
    exact .of_bind (.of_modify fun _ hs => hs) fun _ => .of_pure _
  | observe id topic initial =>
    refine hanswer (.of_get fun s => ?_) _
    exact .of_bind (hensure topic _) fun _ => .of_bind (alongside_enter h topic rfl) fun l =>
      hname .observation id l
  | poll id => exact alongside_withNamed fun l => hanswer (.of_unnoticed (unnoticed_takeUnread l)) _
  | next id => exact alongside_withNamed fun l => .of_unnoticed (unnoticed_next l)
  | close id => exact alongside_withNamed fun l => hanswer (alongside_shut l) _
  | isClosed id =>
    exact alongside_withNamed fun l => hanswer (.of_unnoticed (unnoticed_isClosed l)) _
  | topicOf id => exact alongside_withNamed fun l => .of_getListener fun _ => .of_pure _
  | observeAsync id topic initial loop =>
    refine hanswer (.of_bind ?_ fun l => hname .observation id l) _
    refine .of_get fun s => .of_bind (hensure topic _) fun _ => .of_get fun s => ?_
    split
    · exact .of_throw _
    · exact alongside_enter h topic rfl
  | closeLoop id =>
    refine alongside_withNamed fun l => hanswer (.of_unnoticed ?_) _
    exact .of_modify (Alike.modifyListener Listener.bare_closeLoop l)

end Switchboard

end FeatureFlags

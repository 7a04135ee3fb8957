import FeatureFlags.Proofs.Switchboard.Views

/-!
# Proofs/Switchboard/Handing — how actions run, and what handing a value to listeners does

`Handed` says once what becomes of a switchboard when a value is handed to one listener, one case
for each kind of listener and each state it may be in.  Handing to a list of listeners is that,
one after the other (`fanOut`), as long as none of them is a recorder: the failures of a callback
are its own.
-/

namespace FeatureFlags

namespace Switchboard

variable {α β : Type} {l : ListenerId} {s : Switchboard}

/-! ## Running actions -/

theorem run_pure (a : α) (s : Switchboard) : (pure a : Action α).run s = (.ok a, s) := rfl

theorem run_get (s : Switchboard) : (get : Action Switchboard).run s = (.ok s, s) := rfl

theorem run_modify (f : Switchboard → Switchboard) (s : Switchboard) :
    (modify f : Action Unit).run s = (.ok (), f s) := rfl

theorem run_bind (x : Action α) (f : α → Action β) (s : Switchboard) :
    (x >>= f).run s = match x.run s with
      | (.ok a, s') => (f a).run s'
      | (.error e, s') => (.error e, s') := by
  rw [ExceptT.run_bind]
  simp only [bind, StateT.bind]
  rcases x.run s with ⟨_ | _, _⟩ <;> rfl

theorem run_tryCatch (x : Action α) (h : Failure → Action α) (s : Switchboard) :
    (tryCatch x h).run s = match x.run s with
      | (.ok a, s') => (.ok a, s')
      | (.error e, s') => (h e).run s' := by
  rw [ExceptT.run_tryCatch]
  simp only [bind, StateT.bind]
  rcases x.run s with ⟨_ | _, _⟩ <;> rfl

/-- The parts of a run that came to an answer. -/
theorem run_bind_eq_ok {x : Action α} {f : α → Action β} {b : β} {s s' : Switchboard}
    (h : (x >>= f).run s = (.ok b, s')) :
    ∃ a t, x.run s = (.ok a, t) ∧ (f a).run t = (.ok b, s') := by
  rw [run_bind] at h
  rcases hx : x.run s with ⟨e | a, t⟩ <;> rw [hx] at h
  · cases h
  · exact ⟨a, t, rfl, h⟩

theorem run_pure_eq_ok {a b : α} {s s' : Switchboard}
    (h : (pure a : Action α).run s = (.ok b, s')) : a = b ∧ s = s' := by
  cases h
  exact ⟨rfl, rfl⟩

/-- **What an action leaves**, whether it fails or not. -/
def after (a : Action α) (s : Switchboard) : Switchboard := (a.run s).2

theorem after_modify_bind (f : Switchboard → Switchboard) (k : Unit → Action β) (s : Switchboard) :
    after (modify f >>= k) s = after (k ()) (f s) := rfl

theorem after_get_bind (k : Switchboard → Action β) (s : Switchboard) :
    after (get >>= k) s = after (k s) s := rfl

theorem after_bind_pure (x : Action α) (f : α → β) (s : Switchboard) :
    after (x >>= fun a => pure (f a)) s = after x s := by
  rw [after, run_bind, after]
  rcases x.run s with ⟨_ | _, _⟩ <;> rfl

/-! ## Relations that actions keep -/

/-- **An action keeps a relation**: what it finds is related to what it leaves. -/
def Keeps (R : Switchboard → Switchboard → Prop) (a : Action α) : Prop := ∀ s, R s (after a s)

namespace Keeps

variable {R : Switchboard → Switchboard → Prop}

/-- What a run finds is related to what it leaves. -/
theorem run {a : Action α} (h : Keeps R a) {r : Except Failure α} {s s' : Switchboard}
    (hrun : a.run s = (r, s')) : R s s' := by
  have hs := h s
  rwa [after, hrun] at hs

theorem of_modify {f : Switchboard → Switchboard} (hf : ∀ s, R s (f s)) :
    Keeps R (modify f : Action Unit) := hf

theorem of_get {f : Switchboard → Action β} (hf : ∀ s, Keeps R (f s)) : Keeps R (get >>= f) :=
  fun s => hf s s

theorem of_getListener {l : ListenerId} {f : Option Listener → Action β}
    (hf : ∀ x, Keeps R (f x)) : Keeps R (getListener l >>= f) := fun s => hf _ s

theorem of_pure [Std.Refl R] (a : α) : Keeps R (pure a : Action α) := fun s => Std.Refl.refl s

theorem of_throw [Std.Refl R] (e : Failure) : Keeps R (throw e : Action α) :=
  fun s => Std.Refl.refl s

theorem of_bind [Trans R R R] {x : Action α} {f : α → Action β} (hx : Keeps R x)
    (hf : ∀ a, Keeps R (f a)) : Keeps R (x >>= f) := by
  intro s
  have h := hx s
  rw [after] at h ⊢
  rw [run_bind]
  rcases hr : x.run s with ⟨_ | a, s'⟩
  · rwa [hr] at h
  · rw [hr] at h
    exact Trans.trans h (hf a s')

theorem of_tryCatch [Trans R R R] {x : Action α} {h : Failure → Action α} (hx : Keeps R x)
    (hh : ∀ e, Keeps R (h e)) : Keeps R (tryCatch x h) := by
  intro s
  have hs := hx s
  rw [after] at hs ⊢
  rw [run_tryCatch]
  rcases hr : x.run s with ⟨e | _, s'⟩ <;> rw [hr] at hs
  · exact Trans.trans hs (hh e s')
  · exact hs

theorem of_forM [Std.Refl R] [Trans R R R] {f : α → Action Unit} (hf : ∀ a, Keeps R (f a))
    (as : List α) : Keeps R (as.forM f) := by
  induction as with
  | nil => exact of_pure ()
  | cons a as ih => exact of_bind (hf a) fun _ => ih

theorem of_mapM [Std.Refl R] [Trans R R R] {f : α → Action β} (hf : ∀ a, Keeps R (f a))
    (as : List α) : Keeps R (as.mapM f) := by
  induction as with
  | nil => exact of_pure []
  | cons a as ih =>
    rw [List.mapM_cons]
    exact of_bind (hf a) fun _ => of_bind ih fun _ => of_pure _

end Keeps

/-! ## Handing to one listener -/

/-- **What handing a value to a listener does.** -/
inductive Handed (react : React) (value : Bool) (l : ListenerId) (s : Switchboard) :
    Switchboard → Prop
  | passed (h : ∀ x, s.listener? l = some x → x.closed = true) : Handed react value l s s
  | called {label topic : Text} {script : Script} {s' : Switchboard}
      (h : s.listener? l = some (.callback label topic script))
      (hs : s' = after (react l value) (s.deliver l value) ∨ ∃ severity message,
        s' = (after (react l value) (s.deliver l value)).record severity message) :
      Handed react value l s s'
  | stored {topic : Text} {unread : Option Bool}
      (h : s.listener? l = some (.reader topic unread false)) :
      Handed react value l s
        (((s.deliver l value).modifyListener l (·.store value)).wake l)
  | queued {topic : Text} {unread : Option Bool} {closed : Bool}
      (h : s.listener? l = some (.inbox topic .running unread closed)) :
      Handed react value l s ((s.deliver l value).enqueue l value)
  | lost {topic : Text} {unread : Option Bool} {closed : Bool}
      (h : s.listener? l = some (.inbox topic .idle unread closed)) :
      Handed react value l s (s.deliver l value)
  | dropped {topic : Text} {unread : Option Bool} {closed : Bool} {message : Text}
      (h : s.listener? l = some (.inbox topic .closed unread closed)) :
      Handed react value l s
        (((s.record .debug message).modifyListener l (·.close)).detach topic l)

/-- **Handing to a listener that is no recorder does not fail.** -/
theorem run_hand (react : React) (value : Bool)
    (hr : ∀ x, s.listener? l = some x → x.isRecorder = false) :
    ∃ s', (hand react value l).run s = (.ok (), s') ∧ Handed react value l s s' := by
  simp only [hand, getListener, run_bind, run_get, run_pure]
  cases h : s.listener? l with
  | none => exact ⟨s, rfl, .passed (by simp [h])⟩
  | some x =>
    cases x with
    | callback label topic script =>
      simp only [run_bind, run_modify, run_tryCatch]
      cases hr : (react l value).run (s.deliver l value) with
      | mk r s₁ =>
        have hs : s₁ = after (react l value) (s.deliver l value) := by rw [after, hr]
        cases r with
        | ok => exact ⟨s₁, rfl, .called h (.inl hs)⟩
        | error => exact ⟨_, rfl, .called h (.inr ⟨_, _, by rw [← hs]⟩)⟩
    | recorder label script => exact absurd (hr _ h) (by simp [Listener.isRecorder])
    | reader topic unread closed =>
      cases closed with
      | true => exact ⟨s, rfl, .passed (by simp [h, Listener.closed])⟩
      | false => exact ⟨_, rfl, .stored h⟩
    | inbox topic loop unread closed =>
      cases loop with
      | running => exact ⟨_, rfl, .queued h⟩
      | idle => exact ⟨_, rfl, .lost h⟩
      | closed => exact ⟨_, rfl, .dropped h⟩

/-! ## Handing to listeners one after the other -/

/-- What handing a value to one listener leaves. -/
def handed (react : React) (value : Bool) (l : ListenerId) (s : Switchboard) : Switchboard :=
  after (hand react value l) s

/-- What handing a value to listeners in order leaves. -/
def fanOut (react : React) (value : Bool) (ls : List ListenerId) (s : Switchboard) : Switchboard :=
  after (ls.forM (hand react value)) s

theorem run_hand_eq (react : React) (value : Bool)
    (hr : ∀ x, s.listener? l = some x → x.isRecorder = false) :
    (hand react value l).run s = (.ok (), handed react value l s) := by
  obtain ⟨s', h, -⟩ := run_hand react value hr
  rw [handed, after, h]

theorem handed_handed (react : React) (value : Bool)
    (hr : ∀ x, s.listener? l = some x → x.isRecorder = false) :
    Handed react value l s (handed react value l s) := by
  obtain ⟨s', h, hs⟩ := run_hand react value hr
  rwa [handed, after, h]

/-- A recorder is called, and its failure is not caught. -/
theorem handed_cases (react : React) (value : Bool) (l : ListenerId) (s : Switchboard) :
    Handed react value l s (handed react value l s) ∨
      (∃ label script, s.listener? l = some (.recorder label script)) ∧
        handed react value l s = after (react l value) (s.deliver l value) := by
  by_cases hr : ∃ label script, s.listener? l = some (.recorder label script)
  · obtain ⟨label, script, hx⟩ := hr
    refine .inr ⟨⟨label, script, hx⟩, ?_⟩
    simp only [handed, hand, getListener, bind_assoc, pure_bind, after_get_bind, hx,
      after_modify_bind]
  · refine .inl (handed_handed react value fun x hx => ?_)
    cases x with
    | recorder label script => exact absurd ⟨label, script, hx⟩ hr
    | _ => rfl

theorem fanOut_nil (react : React) (value : Bool) (s : Switchboard) :
    fanOut react value [] s = s := rfl

theorem fanOut_cons (react : React) (value : Bool) (ls : List ListenerId)
    (hr : ∀ x, s.listener? l = some x → x.isRecorder = false) :
    fanOut react value (l :: ls) s = fanOut react value ls (handed react value l s) := by
  change ((hand react value l >>= fun _ => ls.forM (hand react value)).run s).2 = _
  rw [run_bind, run_hand_eq react value hr]
  rfl

end Switchboard

end FeatureFlags

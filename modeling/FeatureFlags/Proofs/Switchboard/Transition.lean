import FeatureFlags.Proofs.Switchboard.Handing

/-!
# Proofs/Switchboard/Transition — what an operation does, said once and exactly

Every operation that puts no recorder to use makes one of nine transitions (`execute_transition`):
it is idle but for the flags and records, reads from a listener, closes the loop of one, closes one,
unsubscribes one, makes sure of a signal, is refused after that, writes a topic and hands the value
to everybody attached, or lets a new listener in and hands it the present value.

    writing    ensure ──▸ write ──▸ hand to each one attached
    entering   ensure ──▸ enroll ──▸ attach ──▸ hand to the new one ──▸ name
-/

namespace FeatureFlags

/-! ## The shapes of operations -/

/-- **A writing**: a topic gets a value; without a signal it has an initial one before. -/
structure Writing where
  topic : Text
  initial : Bool
  value : Bool

/-- **An entrance**: a listener for a topic, to be known by an identifier. -/
structure Entrance where
  topic : Text
  initial : Option Bool
  listener : Listener
  register : Register
  id : Text

/-- What a change makes of the flags; data that does not pass changes nothing. -/
def Change.roster : Change → Roster → Roster
  | .save (.ok f), r => r.insert f
  | .saveAll (.ok fs), r => r.insertAll fs
  | .replace (.ok f), r => r.upsert f
  | .update (.ok f), r => r.upsert f
  | .empty, _ => []
  | .clearAll, _ => []
  | _, r => r

namespace Operation

/-- What an operation makes of the flags. -/
def roster : Operation → Roster → Roster
  | .change c => c.roster
  | _ => id

/-- The writing an operation comes to. -/
def writing? : Operation → Option Writing
  | .publish topic value => some ⟨topic, value, value⟩
  | .set topic value => some ⟨topic, false, value⟩
  | .change (.update (.ok f)) => some ⟨f.name, f.enabled, f.enabled⟩
  | _ => none

/-- The entrance an operation comes to. -/
def entrance? : Operation → Option Entrance
  | .subscribe id topic initial script =>
    some ⟨topic, initial, .callback id topic script, .subscription, id⟩
  | .observe id topic initial => some ⟨topic, initial, .reader topic none false, .observation, id⟩
  | .observeAsync id topic initial loop =>
    some ⟨topic, initial, .inbox topic loop none false, .observation, id⟩
  | _ => none

/-- The signal an operation makes sure of and does nothing else with. -/
def ensures? : Operation → Option (Text × Bool)
  | .signal topic initial => some (topic, initial)
  | .count topic => some (topic, false)
  | _ => none

/-- No recorder is put to use. -/
def isPlain : Operation → Bool
  | .attach _ _ _ => false
  | .detach _ _ _ => false
  | _ => true

end Operation

namespace Entrance

variable {o : Operation} {e : Entrance}

theorem topic?_listener (h : o.entrance? = some e) : e.listener.topic? = some e.topic := by
  cases o <;> cases h <;> rfl

theorem closed_listener (h : o.entrance? = some e) : e.listener.closed = false := by
  cases o <;> cases h <;> rfl

theorem isRecorder_listener (h : o.entrance? = some e) : e.listener.isRecorder = false := by
  cases o <;> cases h <;> rfl

theorem isCallback_of_subscription (h : o.entrance? = some e) (hr : e.register = .subscription) :
    e.listener.isCallback = true := by
  cases o <;> cases h <;> first | rfl | cases hr

theorem isCallback_of_observation (h : o.entrance? = some e) (hr : e.register = .observation) :
    e.listener.isCallback = false := by
  cases o <;> cases h <;> first | rfl | cases hr

end Entrance

namespace Switchboard

variable {α β : Type} {react : React} {s s' : Switchboard}

/-! ## Openings -/

/-- The flags as an operation leaves them. -/
def redefined (o : Operation) (s : Switchboard) : Switchboard :=
  { s with roster := o.roster s.roster }

/-- The value a topic gets with its signal, when a listener enters. -/
def first (e : Entrance) (s : Switchboard) : Bool := e.initial.getD (s.roster.isEnabled e.topic)

/-- A topic written, before anybody hears of it. -/
def written (w : Writing) (s : Switchboard) : Switchboard :=
  (s.ensure w.topic w.initial).write w.topic w.value

/-- A new listener attached, before it hears of anything. -/
def entered (e : Entrance) (s : Switchboard) : Switchboard :=
  ((s.ensure e.topic (s.first e)).enrolled e.listener).attach e.topic s.listeners.length

theorem ensure_ensure (topic : Text) (b c : Bool) (s : Switchboard) :
    (s.ensure topic b).ensure topic c = s.ensure topic b := by
  rw [ensure, if_pos (isSome_signal?_ensure topic b s)]

theorem listeners_ensure (topic : Text) (b : Bool) (s : Switchboard) :
    (s.ensure topic b).listeners = s.listeners := by
  unfold ensure
  split <;> rfl

theorem roster_ensure (topic : Text) (b : Bool) (s : Switchboard) :
    (s.ensure topic b).roster = s.roster := by
  unfold ensure
  split <;> rfl

theorem directory_ensure (topic : Text) (b : Bool) (s : Switchboard) :
    (s.ensure topic b).directory = s.directory := by
  unfold ensure
  split <;> rfl

/-- Who is attached once a listener has entered. -/
theorem attached_entered (e : Entrance) (t : Text) (s : Switchboard) :
    (s.entered e).attached t
      = if t = e.topic then s.attached t ++ [s.listeners.length] else s.attached t := by
  have h : (((s.ensure e.topic (s.first e)).enrolled e.listener).signal? e.topic).isSome :=
    isSome_signal?_ensure e.topic (s.first e) s
  rw [entered, attached_attach t _ h]
  change (if t = e.topic then (s.ensure e.topic (s.first e)).attached t ++ _
    else (s.ensure e.topic (s.first e)).attached t) = _
  rw [attached_ensure]

theorem listeners_entered (e : Entrance) (s : Switchboard) :
    (s.entered e).listeners = s.listeners ++ [e.listener] := by
  change (s.ensure e.topic (s.first e)).listeners ++ [e.listener] = _
  rw [listeners_ensure]

theorem value?_written (w : Writing) (t : Text) (s : Switchboard) :
    (s.written w).value? t = if t = w.topic then some w.value else s.value? t := by
  rw [written, value?_write, value?_ensure]
  by_cases ht : t = w.topic
  · rw [if_pos ht, if_pos ht, if_pos ht]
    rfl
  · rw [if_neg ht, if_neg ht, if_neg ht]

theorem value?_entered (e : Entrance) (t : Text) (s : Switchboard) :
    (s.entered e).value? t
      = if t = e.topic then some ((s.value? t).getD (s.first e)) else s.value? t := by
  rw [entered, value?_attach]
  exact value?_ensure e.topic t (s.first e) s

/-! ## Actions that only leave records -/

/-- **Nothing but records was left**, if anything. -/
def Recorded (s s' : Switchboard) : Prop := s' = { s with records := s'.records }

instance : Std.Refl Recorded := ⟨fun _ => rfl⟩

instance : Trans Recorded Recorded Recorded where
  trans := by
    intro s s' s'' h h'
    rw [Recorded] at h h' ⊢
    rw [h', h]

theorem Recorded.alike (h : Recorded s s') : Alike s s' := by
  rw [h]
  exact ⟨rfl, rfl, rfl, rfl, rfl⟩

theorem recorded_note (severity : Severity) (message : Text) :
    Keeps Recorded (note severity message) := .of_modify fun _ => rfl

/-- Faults become records. -/
theorem recorded_conclude (kind : Text) (v : Verdict) : Keeps Recorded (conclude kind v) := by
  refine .of_bind (.of_forM (fun _ => recorded_note _ _) v.faults) fun _ => ?_
  split
  · exact .of_pure _
  · exact .of_throw _

theorem recorded_supportsLevel (topic : Text) (level : Int) :
    Keeps Recorded (supportsLevel topic level) := .of_get fun _ => recorded_conclude _ _

theorem recorded_supportsVersion (topic version : Text) :
    Keeps Recorded (supportsVersion topic version) := .of_get fun _ => recorded_conclude _ _

theorem Keeps.of_ifGiven {R : Switchboard → Switchboard → Prop} [Std.Refl R] [Trans R R R]
    {asked : Option α} {x : α → Action Bool} (h : ∀ a, Keeps R (x a)) :
    Keeps R (ifGiven asked x) := by
  cases asked with
  | none => exact .of_pure none
  | some a => exact .of_bind (h a) fun _ => .of_pure _

theorem recorded_eligibility (topic : Text) (level : Option Int) (version : Option Text) :
    Keeps Recorded (eligibility topic level version) :=
  .of_bind (.of_ifGiven fun n => recorded_supportsLevel topic n) fun _ =>
    .of_bind (.of_ifGiven fun t => recorded_supportsVersion topic t) fun _ => .of_pure _

/-- **Queries change nothing** but the records. -/
theorem recorded_ask (q : Query) : Keeps Recorded (ask q) := by
  cases q with
  | supportsLevel topic level => exact .of_bind (recorded_supportsLevel _ _) fun _ => .of_pure _
  | supportsVersion topic version =>
    exact .of_bind (recorded_supportsVersion _ _) fun _ => .of_pure _
  | supports topic level version =>
    refine .of_bind (.of_bind (recorded_supportsLevel _ _) fun b => ?_) fun _ => .of_pure _
    cases b with
    | true => exact recorded_supportsVersion _ _
    | false => exact .of_pure _
  | _ => exact .of_get fun _ => .of_pure _

/-! ## Reading and closing -/

/-- Whose value an operation reads. -/
def reads? (s : Switchboard) : Operation → Option ListenerId
  | .poll id => s.named? .observation id
  | .next id => s.named? .observation id
  | _ => none

theorem run_takeUnread (l : ListenerId) (s : Switchboard) :
    (takeUnread l).run s = (.ok ((s.listener? l).bind Listener.unread),
      s.modifyListener l (·.take)) := rfl

/-- **The next value** of a listener. -/
theorem run_next (l : ListenerId) (s : Switchboard) :
    (next l).run s = match s.listener? l with
      | none => (.ok .stopped, s)
      | some x =>
        if x.closed then (.ok .stopped, s)
        else (.ok ((x.unread.map Answer.truth).getD .blocked), s.modifyListener l (·.take)) := by
  simp only [next, isClosed, getListener, run_bind, run_get, run_pure]
  cases hx : s.listener? l with
  | none => rfl
  | some x =>
    cases hc : x.closed with
    | true =>
      simp only [Option.map_some, hc, Option.getD_some, if_true]
      rfl
    | false =>
      simp only [Option.map_some, hc, Option.getD_some, Bool.false_eq_true, if_false]
      rw [run_bind, run_takeUnread, hx, Option.bind_some]
      cases x.unread <;> rfl

/-- An action on the listener of an identifier. -/
theorem run_withNamed (register : Register) (id : Text) (act : ListenerId → Action Answer)
    (s : Switchboard) :
    (withNamed register id act).run s = match s.named? register id with
      | none => (.ok .nothing, s)
      | some l => (act l).run s := by
  simp only [withNamed, run_bind, run_get]
  cases s.named? register id <;> rfl

/-- A listener closed: it is detached from its topic, and those who wait at it are woken. -/
def closing (l : ListenerId) (x : Listener) (s : Switchboard) : Switchboard :=
  match x.topic? with
  | none => (s.modifyListener l (·.close)).wake l
  | some topic => ((s.modifyListener l (·.close)).wake l).detach topic l

/-- **Shutting** closes who is open, and never fails. -/
theorem run_shut (l : ListenerId) (s : Switchboard) :
    (shut l).run s = (.ok (), match s.listener? l with
      | none => s
      | some x => if x.closed then s else s.closing l x) := by
  simp only [shut, getListener, run_bind, run_get, run_pure]
  cases s.listener? l with
  | none => rfl
  | some x =>
    cases hc : x.closed with
    | true =>
      simp only [hc, if_true]
      rfl
    | false =>
      simp only [hc, Bool.false_eq_true, if_false, run_bind, run_modify, closing]
      cases x.topic? <;> rfl

/-- Closing who listens to no topic goes unnoticed. -/
theorem alike_closing {l : ListenerId} {x : Listener} (hx : s.listener? l = some x)
    (ht : x.topic? = none) : Alike s (s.closing l x) := by
  have hbare : ∀ y, s.listener? l = some y → y.close.bare = y.bare := by
    intro y hy
    obtain rfl : x = y := Option.some.inj (hx.symm.trans hy)
    cases x with
    | recorder => rfl
    | _ => cases ht
  rw [closing, ht]
  exact (Alike.modifyListener_of hbare).trans (Alike.wake l _)

/-- Who is shut is closed, unless nobody is there or who is there is closed. -/
theorem after_shut_cases (l : ListenerId) (s : Switchboard) :
    after (shut l) s = s ∨
      ∃ x, s.listener? l = some x ∧ x.closed = false ∧ after (shut l) s = s.closing l x := by
  rw [after, run_shut]
  cases s.listener? l with
  | none => exact .inl rfl
  | some x =>
    cases hc : x.closed with
    | true => exact .inl (if_pos hc)
    | false => exact .inr ⟨x, rfl, hc, if_neg (Bool.eq_false_iff.1 hc)⟩

/-! ## The transition of an operation -/

/-- **An operation has nothing to do** with signals and listeners: it is not meant to, or does not
find whom it is meant for. -/
structure Idle (o : Operation) (s : Switchboard) : Prop where
  writing : o.writing? = none
  entrance : o.entrance? = none
  ensures : o.ensures? = none
  unsubscribes : ∀ {id l x}, o = .unsubscribe id → s.named? .subscription id = some l →
    s.listener? l = some x → x.topic? = none
  closes : ∀ {id l x}, o = .close id → s.named? .observation id = some l →
    s.listener? l = some x → x.closed = false → x.topic? = none

/-- **What an operation does**, whatever callbacks do meanwhile. -/
inductive Transition (react : React) (s : Switchboard) : Operation → Switchboard → Prop
  | idle {o s'} (ho : Idle o s) (hr : s.reads? o = none) (h : Recorded (s.redefined o) s') :
      Transition react s o s'
  | read {o l s'} (hr : s.reads? o = some l)
      (h : s' = s.modifyListener l (·.take) ∨
        s' = s ∧ ∀ x, s.listener? l = some x → x.closed = true) : Transition react s o s'
  | loopClosed {id l} (hn : s.named? .observation id = some l) :
      Transition react s (.closeLoop id) (s.modifyListener l (·.closeLoop))
  | shut {id l x} (hn : s.named? .observation id = some l) (hx : s.listener? l = some x)
      (hc : x.closed = false) : Transition react s (.close id) (s.closing l x)
  | unsubscribed {id l x topic} (hn : s.named? .subscription id = some l)
      (hx : s.listener? l = some x) (ht : x.topic? = some topic) :
      Transition react s (.unsubscribe id) (s.detach topic l)
  | ensured {o topic b} (ho : o.ensures? = some (topic, b)) :
      Transition react s o (s.ensure topic b)
  | refused {o e} (ho : o.entrance? = some e) (hr : e.register = .observation) :
      Transition react s o (s.ensure e.topic (s.first e))
  | writes {o w s'} (ho : o.writing? = some w)
      (h : Recorded (fanOut react w.value (s.attached w.topic) ((s.redefined o).written w)) s') :
      Transition react s o s'
  | enters {o e} (ho : o.entrance? = some e) :
      Transition react s o ((handed react ((s.entered e).value e.topic) s.listeners.length
        (s.entered e)).name e.register e.id s.listeners.length)

section

variable (react : React)

/-- Setting a topic: it is written, and handed to everybody attached. -/
theorem run_set (topic : Text) (value : Bool) (s : Switchboard) :
    (set react topic value).run s
      = ((s.attached topic).forM (hand react value)).run (s.written ⟨topic, false, value⟩) := by
  simp only [set, run_bind, run_modify, run_get]
  rw [attached_write, attached_ensure]
  rfl

/-- Setting a topic that has a signal. -/
theorem run_set_ensure (topic : Text) (value b : Bool) (s : Switchboard) :
    (set react topic value).run (s.ensure topic b)
      = ((s.attached topic).forM (hand react value)).run (s.written ⟨topic, b, value⟩) := by
  rw [run_set, attached_ensure, written, ensure_ensure]
  rfl

/-- Writing a topic for everybody attached, and what is noted after it. -/
theorem recorded_after_set {topic : Text} {value b : Bool} {k : Unit → Action β}
    (hk : ∀ u, Keeps Recorded (k u)) (s : Switchboard) :
    Recorded (fanOut react value (s.attached topic) (s.written ⟨topic, b, value⟩))
      (after (set react topic value >>= k) (s.ensure topic b)) := by
  rw [after, run_bind, run_set_ensure, fanOut, after]
  rcases ((s.attached topic).forM (hand react value)).run (s.written ⟨topic, b, value⟩)
    with ⟨_ | u, s'⟩
  · rfl
  · exact hk u s'

theorem transition_publish (topic : Text) (value : Bool) (s : Switchboard) :
    Transition react s (.publish topic value)
      (after (execute react (.publish topic value)) s) := by
  refine .writes rfl ?_
  simp only [execute, publish, bind_assoc]
  rw [after_modify_bind]
  exact recorded_after_set react (fun _ => .of_bind (recorded_note _ _) fun _ => .of_pure _) s

theorem transition_set (topic : Text) (value : Bool) (s : Switchboard) :
    Transition react s (.set topic value) (after (execute react (.set topic value)) s) := by
  refine .writes rfl ?_
  have h : after (execute react (.set topic value)) s
      = after (execute react (.set topic value)) (s.ensure topic false) := by
    simp only [execute, set, bind_assoc, after_modify_bind, ensure_ensure]
  rw [h]
  exact recorded_after_set react (fun _ => .of_pure _) s

theorem transition_change (c : Change) (s : Switchboard) :
    Transition react s (.change c) (after (execute react (.change c)) s) := by
  have idle (h : (Operation.change c).writing? = none)
      (hs : Recorded (s.redefined (.change c)) (after (execute react (.change c)) s)) :
      Transition react s (.change c) (after (execute react (.change c)) s) :=
    .idle ⟨h, rfl, rfl, nofun, nofun⟩ rfl hs
  cases c with
  | save flag => cases flag <;> exact idle rfl rfl
  | saveAll flags => cases flags <;> exact idle rfl rfl
  | replace flag => cases flag <;> exact idle rfl rfl
  | empty => exact idle rfl rfl
  | clearAll => exact idle rfl rfl
  | update flag =>
    cases flag with
    | error issues => exact idle rfl rfl
    | ok f =>
      refine .writes rfl ?_
      simp only [execute, change, update, publish, require, bind_assoc, pure_bind]
      rw [after_modify_bind, after_modify_bind]
      exact recorded_after_set react (fun _ => .of_bind (recorded_note _ _) fun _ =>
        .of_bind (recorded_note _ _) fun _ => .of_get fun _ => .of_pure _) (s.redefined _)

/-- A listener that is no recorder enters without failing. -/
theorem run_enter {x : Listener} (hx : x.isRecorder = false) (topic : Text) (s : Switchboard) :
    (enter react topic x).run s = (.ok s.listeners.length,
      handed react (((s.enrolled x).attach topic s.listeners.length).value topic) s.listeners.length
        ((s.enrolled x).attach topic s.listeners.length)) := by
  have hr : ∀ y, ((s.enrolled x).attach topic s.listeners.length).listener? s.listeners.length
      = some y → y.isRecorder = false := by
    intro y hy
    obtain rfl : x = y := by simpa [listener?, attach, adjust, enrolled] using hy
    exact hx
  have h := run_hand_eq react (((s.enrolled x).attach topic s.listeners.length).value topic) hr
  simp only [enter, enroll, join, run_bind, run_get, run_modify, run_pure]
  rw [show ({ s with listeners := s.listeners ++ [x] } : Switchboard) = s.enrolled x from rfl, h]

/-- Entering after the signal is there, and being named. -/
theorem after_enter {e : Entrance} (he : e.listener.isRecorder = false) (s : Switchboard) :
    after (do
      let l ← enter react e.topic e.listener
      modify (name e.register e.id l)
      return Answer.nothing) (s.ensure e.topic (s.first e))
      = (handed react ((s.entered e).value e.topic) s.listeners.length (s.entered e)).name
          e.register e.id s.listeners.length := by
  rw [after, run_bind, run_enter react he, listeners_ensure]
  rfl

theorem after_subscribe (id topic : Text) (initial : Option Bool) (script : Script)
    (s : Switchboard) :
    let e : Entrance := ⟨topic, initial, .callback id topic script, .subscription, id⟩
    after (execute react (.subscribe id topic initial script)) s
      = (handed react ((s.entered e).value topic) s.listeners.length (s.entered e)).name
          .subscription id s.listeners.length := by
  intro e
  rw [← after_enter react (e := e) rfl]
  simp only [execute, subscribe, initialValue, bind_assoc, pure_bind]
  rfl

theorem after_observe (id topic : Text) (initial : Option Bool) (s : Switchboard) :
    let e : Entrance := ⟨topic, initial, .reader topic none false, .observation, id⟩
    after (execute react (.observe id topic initial)) s
      = (handed react ((s.entered e).value topic) s.listeners.length (s.entered e)).name
          .observation id s.listeners.length := by
  intro e
  rw [← after_enter react (e := e) rfl]
  simp only [execute, observe, initialValue, bind_assoc, pure_bind]
  rfl

/-- An inbox enters, unless it asks apart from the event loop for the running one. -/
theorem after_observeAsync (id topic : Text) (initial : Option Bool) (loop : Loop)
    (s : Switchboard) :
    let e : Entrance := ⟨topic, initial, .inbox topic loop none false, .observation, id⟩
    after (execute react (.observeAsync id topic initial loop)) s
      = if loop = .running ∧ s.onWorker = true then s.ensure topic (s.first e)
        else (handed react ((s.entered e).value topic) s.listeners.length (s.entered e)).name
          .observation id s.listeners.length := by
  intro e
  have hworker : (s.ensure topic (initial.getD (s.roster.isEnabled topic))).onWorker
      = s.onWorker := by
    unfold ensure
    split <;> rfl
  rw [← hworker]
  simp only [execute, observeAsync, enterAsync, initialValue, bind_assoc, pure_bind,
    after_get_bind, after_modify_bind]
  split
  · rfl
  · rw [← after_enter react (e := e) rfl]
    rfl

theorem transition_observeAsync (id topic : Text) (initial : Option Bool) (loop : Loop)
    (s : Switchboard) :
    Transition react s (.observeAsync id topic initial loop)
      (after (execute react (.observeAsync id topic initial loop)) s) := by
  let e : Entrance := ⟨topic, initial, .inbox topic loop none false, .observation, id⟩
  rw [after_observeAsync]
  split
  · exact .refused (e := e) rfl rfl
  · exact .enters (e := e) rfl

theorem transition_unsubscribe (id : Text) (s : Switchboard) :
    Transition react s (.unsubscribe id) (after (execute react (.unsubscribe id)) s) := by
  have idle (h : ∀ l x, s.named? .subscription id = some l → s.listener? l = some x →
      x.topic? = none) : Transition react s (.unsubscribe id) s :=
    .idle ⟨rfl, rfl, rfl, fun | rfl => h _ _, nofun⟩ rfl rfl
  simp only [execute, unsubscribe, bind_assoc, after_get_bind]
  cases hn : s.named? .subscription id with
  | none => exact idle (by simp [hn])
  | some l =>
    cases ht : (s.listener? l).bind Listener.topic? with
    | none =>
      simp only [ht]
      refine idle fun l' x hl hx => ?_
      obtain rfl : l = l' := Option.some.inj (hn.symm.trans hl)
      simpa [hx] using ht
    | some topic =>
      obtain ⟨x, hx, hxt⟩ := Option.bind_eq_some_iff.1 ht
      simp only [ht]
      exact .unsubscribed hn hx hxt

theorem transition_close (id : Text) (s : Switchboard) :
    Transition react s (.close id) (after (execute react (.close id)) s) := by
  have idle (h : ∀ l x, s.named? .observation id = some l → s.listener? l = some x →
      x.closed = true) : Transition react s (.close id) s := by
    refine .idle ⟨rfl, rfl, rfl, nofun, fun | rfl => ?_⟩ rfl rfl
    intro hn hx hc
    rw [h _ _ hn hx] at hc
    cases hc
  rw [execute, after, run_withNamed]
  cases hn : s.named? .observation id with
  | none => exact idle (by simp [hn])
  | some l =>
    have only {y : Listener} (hy : s.listener? l = some y) (hc : y.closed = true) :
        Transition react s (.close id) s := by
      refine idle fun l' x hl hx => ?_
      obtain rfl : l = l' := Option.some.inj (hn.symm.trans hl)
      obtain rfl : y = x := Option.some.inj (hy.symm.trans hx)
      exact hc
    simp only [run_bind, run_shut, run_pure]
    cases hx : s.listener? l with
    | none =>
      refine idle fun l' x hl hx' => ?_
      obtain rfl : l = l' := Option.some.inj (hn.symm.trans hl)
      exact absurd (hx.symm.trans hx') (by simp)
    | some x =>
      cases hc : x.closed with
      | true =>
        simp only [hc, if_true]
        exact only hx hc
      | false =>
        simp only [hc, Bool.false_eq_true, if_false]
        exact .shut hn hx hc

theorem transition_poll (id : Text) (s : Switchboard) :
    Transition react s (.poll id) (after (execute react (.poll id)) s) := by
  have idle : Idle (.poll id) s := ⟨rfl, rfl, rfl, nofun, nofun⟩
  rw [execute, after, run_withNamed]
  cases hn : s.named? .observation id with
  | none => exact .idle idle hn rfl
  | some l => exact .read hn (.inl rfl)

theorem transition_next (id : Text) (s : Switchboard) :
    Transition react s (.next id) (after (execute react (.next id)) s) := by
  have idle : Idle (.next id) s := ⟨rfl, rfl, rfl, nofun, nofun⟩
  rw [execute, after, run_withNamed]
  cases hn : s.named? .observation id with
  | none => exact .idle idle hn rfl
  | some l =>
    refine .read hn ?_
    dsimp only
    rw [run_next]
    cases hx : s.listener? l with
    | none => exact .inr ⟨rfl, fun y hy => by cases hy⟩
    | some x =>
      dsimp only
      split
      · refine .inr ⟨rfl, fun y hy => ?_⟩
        rwa [← Option.some.inj hy]
      · exact .inl rfl

theorem transition_closeLoop (id : Text) (s : Switchboard) :
    Transition react s (.closeLoop id) (after (execute react (.closeLoop id)) s) := by
  have idle : Idle (.closeLoop id) s := ⟨rfl, rfl, rfl, nofun, nofun⟩
  rw [execute, after, run_withNamed]
  cases hn : s.named? .observation id with
  | none => exact .idle idle rfl rfl
  | some l => exact .loopClosed hn

/-- An operation that only asks. -/
theorem transition_withNamed {o : Operation} (s : Switchboard) (ho : Idle o s)
    (hr : s.reads? o = none) (hs : s.redefined o = s) {register : Register} {id : Text}
    {act : ListenerId → Action Answer} (h : ∀ l, after (act l) s = s) :
    Transition react s o (after (withNamed register id act) s) := by
  refine .idle ho hr ?_
  rw [hs, after, run_withNamed]
  cases s.named? register id with
  | none => rfl
  | some l =>
    change Recorded s (after (act l) s)
    rw [h l]
    exact Std.Refl.refl s

/-- **Every operation that puts no recorder to use makes one of these transitions.** -/
theorem execute_transition {o : Operation} (ho : o.isPlain) (s : Switchboard) :
    Transition react s o (after (execute react o) s) := by
  cases o with
  | change c => exact transition_change react c s
  | query q => exact .idle ⟨rfl, rfl, rfl, nofun, nofun⟩ rfl (recorded_ask q s)
  | publish topic value => exact transition_publish react topic value s
  | current topic => exact .idle ⟨rfl, rfl, rfl, nofun, nofun⟩ rfl rfl
  | known topic => exact .idle ⟨rfl, rfl, rfl, nofun, nofun⟩ rfl rfl
  | signal topic initial => exact .ensured rfl
  | set topic value => exact transition_set react topic value s
  | count topic => exact .ensured rfl
  | subscribe id topic initial script =>
    rw [after_subscribe]
    exact .enters (e := ⟨topic, initial, .callback id topic script, .subscription, id⟩) rfl
  | unsubscribe id => exact transition_unsubscribe react id s
  | attach id topic script => exact absurd ho Bool.false_ne_true
  | detach id topic script => exact absurd ho Bool.false_ne_true
  | observe id topic initial =>
    rw [after_observe]
    exact .enters (e := ⟨topic, initial, .reader topic none false, .observation, id⟩) rfl
  | poll id => exact transition_poll react id s
  | next id => exact transition_next react id s
  | close id => exact transition_close react id s
  | isClosed id =>
    have idle : Idle (.isClosed id) s := ⟨rfl, rfl, rfl, nofun, nofun⟩
    exact transition_withNamed react s idle rfl rfl fun _ => rfl
  | topicOf id =>
    have idle : Idle (.topicOf id) s := ⟨rfl, rfl, rfl, nofun, nofun⟩
    exact transition_withNamed react s idle rfl rfl fun _ => rfl
  | observeAsync id topic initial loop =>
    exact transition_observeAsync react id topic initial loop s
  | closeLoop id => exact transition_closeLoop react id s

end

end Switchboard

end FeatureFlags

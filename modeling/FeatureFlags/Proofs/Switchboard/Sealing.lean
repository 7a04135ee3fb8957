import FeatureFlags.Proofs.Switchboard.LatestValue
import FeatureFlags.Proofs.Switchboard.Unsubscribing

/-!
# Proofs/Switchboard/Sealing — a reader that is closed is closed for ever

A reader forgets its unread value when it is closed, and takes none after that (`Tidy`).  Whatever
is done, by callbacks and in the middle of handing out a value included, a tidy reader stays tidy,
and closed once it is (`Seals`).  So closing takes effect at once and for ever, be it called between
operations or by a callback, however deep the calls are nested (`Closing.sealed`):

    publish  ──▸  a  ──▸  callback  ──▸  close l  ──▸  rest of the callback  ──▸  l, b, …
                                         sealed   ───────────────────────────────────────▸
-/

namespace FeatureFlags

namespace Switchboard

variable {react : React} {s s' s'' m c : Switchboard} {l i : ListenerId} {o : Operation}
  {value : Bool}

/-! ## Tidy readers -/

/-- **A tidy reader**: once it is closed it has nothing unread. -/
def Tidy (s : Switchboard) (l : ListenerId) : Prop :=
  ∃ topic unread closed, s.listener? l = some (.reader topic unread closed) ∧
    (closed = true → unread = none)

/-- **A tidy reader stays tidy**, and closed once it is. -/
def Seals (l : ListenerId) (s s' : Switchboard) : Prop :=
  s.Tidy l → s'.Tidy l ∧ (s.isShut l = true → s'.isShut l = true)

namespace Seals

theorem trans (h : Seals l s s') (h' : Seals l s' s'') : Seals l s s'' := by
  intro hs
  obtain ⟨hs', hshut⟩ := h hs
  obtain ⟨hs'', hshut'⟩ := h' hs'
  exact ⟨hs'', fun hc => hshut' (hshut hc)⟩

instance : Std.Refl (Seals l) := ⟨fun _ hs => ⟨hs, id⟩⟩

instance : Trans (Seals l) (Seals l) (Seals l) := ⟨trans⟩

/-- What does not concern the reader. -/
theorem aside (h : s'.listener? l = s.listener? l) : Seals l s s' := by
  rintro ⟨topic, unread, closed, hx, ht⟩
  refine ⟨⟨topic, unread, closed, h.trans hx, ht⟩, fun hc => ?_⟩
  rwa [isShut, h]

theorem recorded (h : Recorded s s') : Seals l s s' := by
  rw [h]
  exact aside rfl

/-- A listener is changed in a way that leaves readers tidy. -/
theorem modifyListener {f : Listener → Listener}
    (hf : ∀ topic unread closed, (closed = true → unread = none) →
      ∃ unread' closed', f (.reader topic unread closed) = .reader topic unread' closed' ∧
        (closed' = true → unread' = none) ∧ (closed = true → closed' = true))
    (i : ListenerId) (s : Switchboard) : Seals l s (s.modifyListener i f) := by
  by_cases hi : l = i
  · rintro ⟨topic, unread, closed, hx, ht⟩
    obtain ⟨unread', closed', hfx, ht', hclosed⟩ := hf topic unread closed ht
    have hx' : (s.modifyListener i f).listener? l = some (.reader topic unread' closed') := by
      rw [listener?_modifyListener, if_pos hi, hx, Option.map_some, hfx]
    refine ⟨⟨topic, unread', closed', hx', ht'⟩, fun hc => ?_⟩
    rw [isShut, hx] at hc
    rw [isShut, hx']
    exact hclosed hc
  · refine aside ?_
    rw [listener?_modifyListener, if_neg hi]

theorem store (i : ListenerId) (value : Bool) (s : Switchboard) :
    Seals l s (s.modifyListener i (·.store value)) := by
  refine modifyListener (fun topic unread closed ht => ?_) i s
  cases closed with
  | true => exact ⟨unread, true, rfl, ht, id⟩
  | false => exact ⟨some value, false, rfl, nofun, nofun⟩

theorem take (i : ListenerId) (s : Switchboard) : Seals l s (s.modifyListener i (·.take)) :=
  modifyListener (fun _ _ closed _ => ⟨none, closed, rfl, fun _ => rfl, id⟩) i s

theorem close (i : ListenerId) (s : Switchboard) : Seals l s (s.modifyListener i (·.close)) :=
  modifyListener (fun _ _ _ _ => ⟨none, true, rfl, fun _ => rfl, fun _ => rfl⟩) i s

theorem closeLoop (i : ListenerId) (s : Switchboard) :
    Seals l s (s.modifyListener i (·.closeLoop)) :=
  modifyListener (fun _ unread closed ht => ⟨unread, closed, rfl, ht, id⟩) i s

theorem rewritten (i : ListenerId) (f : Script → Script) (s : Switchboard) :
    Seals l s (s.rewritten i f) :=
  modifyListener (fun _ unread closed ht => ⟨unread, closed, rfl, ht, id⟩) i s

theorem closing (i : ListenerId) (x : Listener) (s : Switchboard) : Seals l s (s.closing i x) := by
  have hclose : Seals l s ((s.modifyListener i (·.close)).wake i) :=
    (close i s).trans (.aside rfl)
  rw [Switchboard.closing]
  split
  · exact hclose
  · exact hclose.trans (.aside rfl)

theorem ensure (topic : Text) (b : Bool) (s : Switchboard) : Seals l s (s.ensure topic b) :=
  aside (congrArg (·[l]?) (listeners_ensure topic b s))

theorem written (w : Writing) (s : Switchboard) : Seals l s (s.written w) :=
  (ensure w.topic w.initial s).trans (.aside rfl)

/-- Who is there is not concerned by who enters. -/
theorem entered (e : Entrance) (s : Switchboard) : Seals l s (s.entered e) := by
  intro hs
  obtain ⟨topic, unread, closed, hx, -⟩ := id hs
  have hl : l < s.listeners.length := (List.getElem?_eq_some_iff.1 hx).1
  have hstays : (s.entered e).listener? l = s.listener? l := by
    rw [listener?, listeners_entered, List.getElem?_append_left hl, listener?]
  exact aside hstays hs

end Seals

/-! ## Whatever is done -/

section

variable (hreact : ∀ i value, Keeps (Seals l) (react i value))

include hreact

theorem Handed.seals (h : Handed react value i s s') : Seals l s s' := by
  have hdeliver : Seals l s (s.deliver i value) := .aside rfl
  cases h with
  | passed => exact Std.Refl.refl s
  | called _ h =>
    have hcall := hdeliver.trans (hreact i value _)
    rcases h with rfl | ⟨severity, message, rfl⟩
    · exact hcall
    · exact hcall.trans (.aside rfl)
  | stored => exact (hdeliver.trans (.store i value _)).trans (.aside rfl)
  | queued => exact hdeliver.trans (.aside rfl)
  | lost => exact hdeliver
  | @dropped topic unread closed message =>
    have hrecord : Seals l s (s.record .debug message) := .aside rfl
    exact (hrecord.trans (.close i _)).trans (.aside rfl)

theorem keeps_seals_hand (value : Bool) (i : ListenerId) :
    Keeps (Seals l) (hand react value i) := by
  intro s
  rcases handed_cases react value i s with h | ⟨-, h⟩
  · exact h.seals hreact
  · change Seals l s (handed react value i s)
    rw [h]
    have hdeliver : Seals l s (s.deliver i value) := .aside rfl
    exact hdeliver.trans (hreact i value _)

theorem seals_fanOut (value : Bool) (ls : List ListenerId) (s : Switchboard) :
    Seals l s (fanOut react value ls s) :=
  Keeps.of_forM (fun i => keeps_seals_hand hreact value i) ls s

/-- **An operation keeps readers tidy and closed**, if callbacks do. -/
theorem Transition.seals (h : Transition react s o s') : Seals l s s' := by
  have hredefined : Seals l s (s.redefined o) := .aside rfl
  cases h with
  | idle _ _ h => exact hredefined.trans (.recorded h)
  | read _ h =>
    rcases h with rfl | ⟨rfl, -⟩
    · exact .take _ s
    · exact Std.Refl.refl _
  | loopClosed => exact .closeLoop _ s
  | shut => exact .closing _ _ s
  | unsubscribed => exact .aside rfl
  | ensured => exact .ensure _ _ s
  | refused => exact .ensure _ _ s
  | @writes _ w _ _ h =>
    exact ((hredefined.trans (.written w _)).trans
      (seals_fanOut hreact w.value (s.attached w.topic) _)).trans (.recorded h)
  | @enters _ e =>
    exact ((Seals.entered e s).trans (keeps_seals_hand hreact _ _ _)).trans (.aside rfl)

end

/-- **Whatever callbacks do** keeps readers tidy and closed. -/
theorem Conduct.seals (h : Conduct plain s s') : Seals l s s' :=
  h.keeps (fun i f s => .rewritten i f s) fun hreact ho => (execute_transition _ ho _).seals hreact

theorem Lawful.seals (h : Lawful plain react) (i : ListenerId) (value : Bool) :
    Keeps (Seals l) (react i value) := fun s => (h i value s).seals

/-- **Whatever move is made** keeps readers tidy and closed. -/
theorem Move.seals {m : Move} (hm : m.Mild s) : Seals l s (m.after s) := by
  have harrive (i : ListenerId) (value : Bool) (s : Switchboard) :
      Seals l s (s.arrive i value) := by
    rcases arrive_cases i value s with h | h
    · rw [h]
      exact Std.Refl.refl s
    · rw [h]
      exact (Seals.store i value s).trans (.aside rfl)
  have hproceed (w : WaitId) (s : Switchboard) : Seals l s (s.proceed w) := by
    have h := proceeded w s
    generalize s.proceed w = s' at h
    cases h with
    | idle => exact Std.Refl.refl s
    | ended | parked => exact .aside rfl
    | read => exact (Seals.take _ s).trans (.aside rfl)
  cases m with
  | operate react o => exact (execute_transition react hm.2.1 s).seals hm.1.plain_of_mild.seals
  | turn =>
    rw [Move.after, Switchboard.turn]
    split
    · exact Std.Refl.refl s
    · rename_i i value queue hq
      have hpop : Seals l s { s with queue } := .aside rfl
      exact hpop.trans (harrive i value _)
    · rename_i w queue hq
      have hpop : Seals l s { s with queue } := .aside rfl
      exact hpop.trans (hproceed w _)
  | hasten w => exact hproceed w s
  | shut i =>
    rw [Move.after]
    rcases after_shut_cases i s with h | ⟨x, -, -, h⟩
    · rw [h]
      exact Std.Refl.refl s
    · rw [h]
      exact .closing i x s
  | _ => exact .aside rfl

theorem Mild.seals {ms : List Move} (hms : Mild ms s) : Seals l s (play ms s) := by
  induction ms generalizing s with
  | nil => exact Std.Refl.refl s
  | cons m ms ih => exact (Move.seals hms.1).trans (ih hms.2)

/-! ## In the middle of an operation -/

theorem Transition.recorded_of_writing {w : Writing} (hw : o.writing? = some w)
    (h : Transition react s o s') :
    Recorded (fanOut react w.value (s.attached w.topic) ((s.redefined o).written w)) s' := by
  cases h with
  | idle ho => cases ho.writing.symm.trans hw
  | read hr =>
    cases o with
    | poll | next => cases hw
    | _ => cases hr
  | ensured he => cases (Operation.writing?_of_ensures? he).symm.trans hw
  | refused he | enters he => cases (Operation.writing?_of_entrance? he).symm.trans hw
  | loopClosed | shut | unsubscribed => cases hw
  | writes hw' h =>
    obtain rfl := Option.some.inj (hw'.symm.trans hw)
    exact h

theorem Transition.eq_of_entrance {e : Entrance} (he : o.entrance? = some e)
    (hc : e.listener.isCallback) (h : Transition react s o s') :
    s' = (handed react ((s.entered e).value e.topic) s.listeners.length (s.entered e)).name
      e.register e.id s.listeners.length := by
  cases h with
  | idle ho => cases ho.entrance.symm.trans he
  | read hr =>
    cases o with
    | poll | next => cases he
    | _ => cases hr
  | ensured hs => cases (Operation.entrance?_of_ensures? hs).symm.trans he
  | refused hr hobs =>
    obtain rfl := Option.some.inj (hr.symm.trans he)
    rw [Entrance.isCallback_of_observation he hobs] at hc
    cases hc
  | loopClosed | shut | unsubscribed => cases he
  | writes hw => cases (Operation.entrance?_of_writing? hw).symm.trans he
  | enters hr =>
    obtain rfl := Option.some.inj (hr.symm.trans he)
    rfl

/-- **Until a callback is called, and when it has returned**, readers stay tidy and closed. -/
theorem Calling.seals {h : Handing} (hc : Calling react o s i h c) (hlaw : Lawful plain react)
    (ho : o.isPlain) (hs : Orderly s) :
    Seals l s c ∧ Seals l (after (react i h.value) c) (after (execute react o) s) := by
  have htransition := execute_transition react ho s
  cases hc with
  | @told w passed rest _ x hw hl hx hcall =>
    have hwritten := (hs.redefined o).written w
    have hp := (proper_fanOut kept_plain.admits (kept_plain.lawful hlaw) w.value passed _
      hwritten).1
    have hredefined : Seals l s (s.redefined o) := .aside rfl
    constructor
    · exact ((hredefined.trans (.written w _)).trans
        (seals_fanOut hlaw.seals w.value passed _)).trans (.aside rfl)
    · have hall := htransition.recorded_of_writing hw
      rw [hl, fanOut_append hlaw _ _ _ hwritten,
        fanOut_cons react w.value _ hp.listener?_ordinary] at hall
      have hcalled := (handed_handed react w.value hp.listener?_ordinary).recorded_called
        ⟨x.bare, kind?_of_listener? hx, by rwa [Listener.isCallback_bare]⟩
      exact ((Seals.recorded hcalled).trans (seals_fanOut hlaw.seals w.value rest _)).trans
        (.recorded hall)
  | @entered e he hcall =>
    have hcalled := (handed_handed react ((s.entered e).value e.topic)
      (hs.entered he).listener?_ordinary).recorded_called (i := s.listeners.length)
      ⟨e.listener.bare, kind?_entered_self e s, by rwa [Listener.isCallback_bare]⟩
    rw [htransition.eq_of_entrance he hcall]
    exact ⟨(Seals.entered e s).trans (.aside rfl), (Seals.recorded hcalled).trans (.aside rfl)⟩

/-- **Amid an operation** readers stay tidy and closed, until another one is performed and after
it. -/
theorem Amid.seals {pending : List Handing} (h : Amid o pending m s s') (hs : Orderly s) :
    ∃ react, Seals l s m ∧ Seals l (after (execute react o) m) s' := by
  induction h with
  | @itself m react => exact ⟨react, Std.Refl.refl m, Std.Refl.refl _⟩
  | within hlaw ho hc before _ later ih =>
    obtain ⟨hstart, hrest⟩ := hc.seals (l := l) hlaw ho hs
    have hc' := hc.orderly hlaw hs
    obtain ⟨react, hbefore, hafter⟩ := ih (kept_plain.conduct before hc').1
    exact ⟨react, (hstart.trans before.seals).trans hbefore, (hafter.trans later.seals).trans hrest⟩

/-! ## Closing -/

/-- **A reader is sealed**: it is closed, and has nothing unread. -/
def Sealed (s : Switchboard) (l : ListenerId) : Prop := s.Tidy l ∧ s.isShut l = true

theorem Sealed.seals (h : s.Sealed l) (hs : Seals l s s') : s'.Sealed l := by
  obtain ⟨ht, hshut⟩ := hs h.1
  exact ⟨ht, hshut h.2⟩

theorem Sealed.listener? (h : s.Sealed l) :
    ∃ topic, s.listener? l = some (.reader topic none true) := by
  obtain ⟨⟨topic, unread, closed, hx, ht⟩, hshut⟩ := h
  rw [isShut, hx] at hshut
  obtain rfl : closed = true := hshut
  obtain rfl := ht rfl
  exact ⟨topic, hx⟩

/-- **A reader is at its end**: it has nothing unread, polling it finds nothing, and who goes
through its values is told to stop. -/
structure Exhausted (s : Switchboard) (l : ListenerId) : Prop where
  shut : s.isShut l = true
  unread : s.unread? l = none
  poll : ∀ {react id}, s.named? .observation id = some l →
    outcome (execute react (.poll id)) s = .ok .nothing
  next : ∀ {react id}, s.named? .observation id = some l →
    outcome (execute react (.next id)) s = .ok .stopped

theorem Sealed.exhausted (h : s.Sealed l) : s.Exhausted l := by
  obtain ⟨topic, hx⟩ := h.listener?
  refine ⟨h.2, ?_, fun hn => ?_, fun hn => ?_⟩
  · rw [unread?, hx]
    rfl
  · rw [outcome, execute, run_withNamed, hn]
    dsimp only
    rw [run_bind, run_takeUnread, hx]
    rfl
  · rw [outcome, execute, run_withNamed, hn]
    dsimp only
    rw [run_next, hx]
    rfl

/-- **Nothing is read from a sealed reader** by a move. -/
theorem Sealed.value_eq_none {move : Move} {r : Reading} (h : s.Sealed l)
    (hr : r ∈ move.readings s) (hl : r.listener = l) : r.value = none := by
  have hwait {w : WaitId} (hr : r ∈ s.waitReadings w) : r.value = none := by
    obtain ⟨i, hi, rfl⟩ := List.mem_map.1 hr
    obtain rfl : i = l := hl
    obtain ⟨topic, hx⟩ := h.listener?
    exact (proceed_of_due (Option.mem_toList.1 hi) hx).2.2.2
  cases move with
  | operate react o =>
    obtain ⟨i, hi, rfl⟩ := List.mem_map.1 hr
    obtain rfl : i = l := hl
    cases o with
    | poll id =>
      change (outcome (execute react (.poll id)) s).toOption.bind Answer.value? = none
      rw [h.exhausted.poll (Option.mem_toList.1 hi)]
      rfl
    | next id =>
      change (outcome (execute react (.next id)) s).toOption.bind Answer.value? = none
      rw [h.exhausted.next (Option.mem_toList.1 hi)]
      rfl
    | _ => cases hi
  | turn =>
    rw [Move.readings] at hr
    split at hr
    · exact hwait hr
    · cases hr
  | hasten w => exact hwait hr
  | _ => cases hr

/-- **Nothing is read from a sealed reader** any more. -/
theorem Sealed.valuesOf_log {ms : List Move} (h : s.Sealed l) (hms : Mild ms s) :
    valuesOf l (log ms s) = [] := by
  induction ms generalizing s with
  | nil => rfl
  | cons move ms ih =>
    have hfirst : valuesOf l (move.readings s) = [] := by
      refine List.filterMap_eq_nil_iff.2 fun r hr => ?_
      by_cases hl : r.listener = l
      · rw [if_pos hl, h.value_eq_none hr hl]
      · rw [if_neg hl]
    rw [log, valuesOf_append, hfirst, ih (h.seals (Move.seals hms.1)) hms.2, List.append_nil]

/-- **Closing a reader** seals it. -/
theorem sealed_after_shut (ht : s.Tidy l) : (after (shut l) s).Sealed l := by
  obtain ⟨topic, unread, closed, hx, hempty⟩ := id ht
  rw [after, run_shut, hx]
  cases closed with
  | true =>
    refine ⟨ht, ?_⟩
    rw [isShut]
    dsimp only
    rw [Listener.closed, if_pos rfl, hx]
    rfl
  | false =>
    have hclosed : (s.closing l (.reader topic unread false)).listener? l =
        some (.reader topic none true) := by
      change (s.modifyListener l (·.close)).listener? l = _
      rw [listener?_modifyListener, if_pos rfl, hx]
      rfl
    exact ⟨⟨topic, none, true, hclosed, fun _ => rfl⟩, by
      change (s.closing l (.reader topic unread false)).isShut l = true
      rw [isShut, hclosed]
      rfl⟩

/-- **A reader is closed**, by who holds it or by anybody who knows its identifier, between
operations or amid one: the switchboard right after that, and when everything has returned. -/
inductive Closing (l : ListenerId) (s : Switchboard) : Switchboard → Switchboard → Prop
  | held : Closing l s (after (shut l) s) (after (shut l) s)
  | named {id : Text} {pending : List Handing} {m s' : Switchboard} (react : React)
      (h : Amid (.close id) pending m s s') (hn : m.named? .observation id = some l) :
      Closing l s (after (execute react (.close id)) m) s'

/-- **Closing takes effect at once and for ever**: the reader is sealed right after it, and when
everything has returned. -/
theorem Closing.sealed (h : Closing l s m s') (hs : Orderly s) (ht : s.Tidy l) :
    m.Sealed l ∧ s'.Sealed l := by
  cases h with
  | held => exact ⟨sealed_after_shut ht, sealed_after_shut ht⟩
  | named react h hn =>
    obtain ⟨react', hbefore, hafter⟩ := h.seals (l := l) hs
    have hclosed := sealed_after_shut (hbefore ht).1
    rw [after_close_eq_shut hn] at hafter ⊢
    exact ⟨hclosed, hclosed.seals hafter⟩

end Switchboard

end FeatureFlags

import FeatureFlags.Proofs.Switchboard.LatestValue
import FeatureFlags.Proofs.Switchboard.Private

/-!
# Proofs/Switchboard/Settling — the event loop becomes idle, and nobody sleeps over a value

Each turn takes a job from the queue, and only an arrival puts others there, no more than one for
each wait.  So the loop becomes idle when it runs (`queue_settle`).

A wait that is due has a turn in the queue, and one that is parked has nothing to read (`Alert`).
This outlasts all moves, because who stores a value wakes those who wait for it (`Mild.alerts`).  So
when the loop is idle, somebody who waits at an inbox has nothing to read there, or has read it.
-/

namespace FeatureFlags

/-- A value arrives by a job. -/
def Job.isArrival : Job → Bool
  | .arrival _ _ => true
  | .resume _ => false

namespace Switchboard

variable {react : React} {s s' s'' : Switchboard} {l i : ListenerId} {o : Operation}
  {value closed : Bool} {current : Option WaitId} {w : WaitId} {m : Move}

theorem unread?_modifyListener (f : Listener → Listener) (hi : l ≠ i) :
    (s.modifyListener i f).unread? l = s.unread? l := by
  rw [unread?, listener?_modifyListener, if_neg hi, unread?]

/-! ## The loop becomes idle -/

/-- **How many turns a queue may come to**: one for each job, and for an arrival one for each wait
besides. -/
def work (s : Switchboard) : Nat :=
  s.queue.length + s.queue.countP Job.isArrival * s.waits.length

theorem length_parkedAt_le (s : Switchboard) (l : ListenerId) :
    (s.parkedAt l).length ≤ s.waits.length := by
  have h := List.length_filter_le (fun w => s.waits[w]? = some ⟨l, .parked⟩)
    (List.range s.waits.length)
  rwa [List.length_range] at h

theorem countP_resume (ws : List WaitId) : (ws.map Job.resume).countP Job.isArrival = 0 := by
  refine List.countP_eq_zero.2 fun j hj => ?_
  obtain ⟨w, -, rfl⟩ := List.mem_map.1 hj
  exact Bool.false_ne_true

/-- Arrivals put one job for each wait into the queue at most. -/
theorem work_arrive_le (i : ListenerId) (value : Bool) (s : Switchboard) :
    (s.arrive i value).work ≤ s.work + s.waits.length := by
  rcases arrive_cases i value s with h | h
  · rw [h]
    exact Nat.le_add_right _ _
  · have hparked := length_parkedAt_le (s.modifyListener i (·.store value)) i
    rw [h, work, wake, List.length_map, List.length_append, List.length_map, List.countP_append,
      countP_resume, Nat.add_zero, work]
    change s.queue.length + _ + s.queue.countP _ * s.waits.length ≤ _
    change _ ≤ s.waits.length at hparked
    omega

theorem length_waits_setWait (w : WaitId) (state : WaitState) (s : Switchboard) :
    (s.setWait w state).waits.length = s.waits.length := List.length_modify ..

/-- The turn of a wait puts nothing into the queue. -/
theorem work_proceed (w : WaitId) (s : Switchboard) : (s.proceed w).work = s.work := by
  have h := proceeded w s
  generalize s.proceed w = s' at h
  cases h with
  | idle => rfl
  | _ =>
    rw [work, length_waits_setWait]
    rfl

/-- **Each turn lessens the work.** -/
theorem work_turn (h : s.queue ≠ []) : s.turn.work < s.work := by
  rw [turn, work.eq_def s]
  split
  · exact absurd ‹_› h
  · rename_i i value queue hq
    refine (work_arrive_le i value _).trans_lt ?_
    rw [hq, work, List.length_cons, List.countP_cons_of_pos rfl, Nat.succ_mul]
    dsimp only
    omega
  · rename_i w queue hq
    rw [work_proceed, hq, work, List.length_cons, List.countP_cons_of_neg Bool.false_ne_true]
    dsimp only
    omega

theorem turn_of_idle (h : s.queue = []) : s.turn = s := by
  rw [turn, h]

theorem work_eq_zero (h : s.queue = []) : s.work = 0 := by
  rw [work, h, List.length_nil, List.countP_nil, Nat.zero_mul]

/-- What a number of turns leaves to do. -/
theorem work_repeat_turn (n : Nat) (s : Switchboard) : (Nat.repeat turn n s).work ≤ s.work - n := by
  induction n with
  | zero => exact le_refl _
  | succ n ih =>
    rw [Nat.repeat]
    by_cases hq : (Nat.repeat turn n s).queue = []
    · rw [turn_of_idle hq, work_eq_zero hq]
      exact Nat.zero_le _
    · have hturn := work_turn hq
      omega

/-- **When the loop has run it is idle.** -/
theorem queue_settle (s : Switchboard) : s.settle.queue = [] := by
  have hle := work_repeat_turn (s.queue.length * (1 + s.waits.length)) s
  have hbound : s.work ≤ s.queue.length * (1 + s.waits.length) := by
    rw [work, Nat.mul_add, Nat.mul_one]
    exact Nat.add_le_add_left (Nat.mul_le_mul_right _ List.countP_le_length) _
  rw [Nat.sub_eq_zero_of_le hbound, Nat.le_zero] at hle
  exact List.eq_nil_of_length_eq_zero (Nat.eq_zero_of_add_eq_zero_right hle)

/-- What each turn keeps is kept while the loop runs. -/
theorem settle_induction (P : Switchboard → Prop) (hturn : ∀ s, P s → P s.turn) (h : P s) :
    P s.settle := by
  have hrepeat (n : Nat) : P (Nat.repeat turn n s) := by
    induction n with
    | zero => exact h
    | succ n ih => exact hturn _ ih
  exact hrepeat _

theorem Alike.settle (s : Switchboard) : Alike s s.settle :=
  settle_induction (Alike s) (fun t h => h.trans (Alike.turn t)) (Alike.refl s)

/-! ## Nobody sleeps over a value -/

/-- **Nobody sleeps over a value** of a listener: a wait that is due has a turn in the queue, and
where one is parked there is nothing to read. -/
structure Alert (s : Switchboard) (l : ListenerId) : Prop where
  lt_length : l < s.listeners.length
  due : ∀ {w}, s.due? w = some l → Job.resume w ∈ s.queue
  parked : ∀ {w : WaitId}, s.waits[w]? = some ⟨l, .parked⟩ → s.unread? l = none

/-- Nobody sleeps over a value afterwards, if nobody did before. -/
def Alerts (l : ListenerId) (s s' : Switchboard) : Prop := s.Alert l → s'.Alert l

theorem Alerts.trans (h : Alerts l s s') (h' : Alerts l s' s'') : Alerts l s s'' :=
  fun hs => h' (h hs)

instance : Std.Refl (Alerts l) := ⟨fun _ h => h⟩

instance : Trans (Alerts l) (Alerts l) (Alerts l) := ⟨Alerts.trans⟩

namespace Alerts

/-- Waits are as they were, the queue has grown, and there is not more to read. -/
theorem of_waits (hl : s.listeners.length ≤ s'.listeners.length)
    (hu : l < s.listeners.length → s.unread? l = none → s'.unread? l = none)
    (hq : ∀ j ∈ s.queue, j ∈ s'.queue) (hw : s'.waits = s.waits) : Alerts l s s' := by
  intro h
  refine ⟨h.lt_length.trans_le hl, fun {w} hd => hq _ (h.due ?_), fun {w} hp => ?_⟩
  · rwa [due?, ← hw]
  · rw [hw] at hp
    exact hu h.lt_length (h.parked hp)

/-- What concerns neither listeners nor the queue nor waits. -/
theorem aside (hl : s'.listeners = s.listeners) (hq : s'.queue = s.queue)
    (hw : s'.waits = s.waits) : Alerts l s s' := by
  refine of_waits (by rw [hl]) (fun _ hu => ?_) (fun j hj => by rwa [hq]) hw
  rwa [unread?, listener?, hl]

theorem recorded (h : Recorded s s') : Alerts l s s' := by
  rw [h]
  exact aside rfl rfl rfl

/-- A listener changes, but has no more to read. -/
theorem modifyListener {f : Listener → Listener}
    (hf : ∀ x : Listener, x.unread = none → (f x).unread = none) (i : ListenerId)
    (s : Switchboard) : Alerts l s (s.modifyListener i f) := by
  refine of_waits (le_of_eq (List.length_modify ..).symm) (fun _ hu => ?_) (fun _ hj => hj) rfl
  by_cases hi : l = i
  · rw [unread?, listener?_modifyListener, if_pos hi]
    rw [unread?] at hu
    cases hx : s.listener? l with
    | none => rfl
    | some x =>
      rw [hx] at hu
      exact hf x hu
  · rwa [unread?_modifyListener f hi]

theorem take (i : ListenerId) (s : Switchboard) : Alerts l s (s.modifyListener i (·.take)) :=
  modifyListener (fun x hx => by cases x <;> first | exact hx | rfl) i s

theorem close (i : ListenerId) (s : Switchboard) : Alerts l s (s.modifyListener i (·.close)) :=
  modifyListener (fun x hx => by cases x <;> first | exact hx | rfl) i s

theorem closeLoop (i : ListenerId) (s : Switchboard) :
    Alerts l s (s.modifyListener i (·.closeLoop)) :=
  modifyListener (fun x hx => by cases x <;> exact hx) i s

theorem rewritten (i : ListenerId) (f : Script → Script) (s : Switchboard) :
    Alerts l s (s.rewritten i f) :=
  modifyListener (fun x hx => by cases x <;> exact hx) i s

/-- **Who changes a listener and wakes those who wait there** may give it anything to read. -/
theorem wake_modifyListener (f : Listener → Listener) (i : ListenerId) (s : Switchboard) :
    Alerts l s ((s.modifyListener i f).wake i) := by
  intro h
  refine ⟨h.lt_length.trans_eq (List.length_modify ..).symm, fun {w} hd => ?_, fun {w} hp => ?_⟩
  · have hw := due?_eq_some.1 hd
    rw [wake, List.getElem?_map] at hw
    obtain ⟨wait, hwait, hw⟩ := Option.map_eq_some_iff.1 hw
    split at hw
    · obtain rfl := ‹wait = _›
      refine List.mem_append_right _ (List.mem_map_of_mem ?_)
      exact List.mem_filter.2 ⟨List.mem_range.2 (List.getElem?_eq_some_iff.1 hwait).1,
        decide_eq_true hwait⟩
    · obtain rfl := hw
      exact List.mem_append_left _ (h.due (due?_eq_some.2 hwait))
  · rw [wake, List.getElem?_map] at hp
    obtain ⟨wait, hwait, hp⟩ := Option.map_eq_some_iff.1 hp
    split at hp
    · cases hp
    · obtain rfl := hp
      have hi : l ≠ i := by
        rintro rfl
        exact absurd rfl ‹¬ _›
      exact (unread?_modifyListener f hi).trans (h.parked hwait)

theorem ensure (topic : Text) (b : Bool) (s : Switchboard) : Alerts l s (s.ensure topic b) := by
  refine aside (listeners_ensure topic b s) (queue_ensure topic b s) ?_
  unfold Switchboard.ensure
  split <;> rfl

theorem written (w : Writing) (s : Switchboard) : Alerts l s (s.written w) :=
  (ensure w.topic w.initial s).trans (aside rfl rfl rfl)

theorem entered (e : Entrance) (s : Switchboard) : Alerts l s (s.entered e) := by
  refine (ensure e.topic (s.first e) s).trans (of_waits ?_ (fun hlt hu => ?_) (fun _ hj => hj) rfl)
  · rw [listeners_entered, listeners_ensure, List.length_append]
    exact Nat.le_add_right _ _
  · rw [unread?] at hu ⊢
    rwa [show (s.entered e).listener? l = (s.ensure e.topic (s.first e)).listener? l from
      List.getElem?_append_left hlt]

theorem closing (i : ListenerId) (x : Listener) (s : Switchboard) : Alerts l s (s.closing i x) := by
  have h := wake_modifyListener (l := l) (·.close) i s
  rw [Switchboard.closing]
  split
  · exact h
  · exact h.trans (aside rfl rfl rfl)

theorem arrive (i : ListenerId) (value : Bool) (s : Switchboard) :
    Alerts l s (s.arrive i value) := by
  rcases arrive_cases i value s with h | h
  · rw [h]
    exact Std.Refl.refl s
  · rw [h]
    exact wake_modifyListener _ i s

/-- A wait changes: it is not due, and if it is parked now there is nothing to read. -/
theorem setWait {state : WaitState} (hdue : state ≠ .due)
    (hparked : state = .parked → ∃ i, s.due? w = some i ∧ s.unread? i = none) :
    Alerts l s (s.setWait w state) := by
  intro h
  refine ⟨h.lt_length, fun {w'} hd => ?_, fun {w'} hp => ?_⟩
  · have hd := due?_eq_some.1 hd
    rw [getElem?_setWait] at hd
    split at hd
    · obtain ⟨wait, -, hd⟩ := Option.map_eq_some_iff.1 hd
      exact absurd (Wait.mk.inj hd).2 hdue
    · exact h.due (due?_eq_some.2 hd)
  · rw [getElem?_setWait] at hp
    split at hp
    · rename_i he
      subst he
      obtain ⟨wait, hwait, hp⟩ := Option.map_eq_some_iff.1 hp
      obtain ⟨rfl, rfl⟩ := Wait.mk.inj hp
      obtain ⟨i, hi, hu⟩ := hparked rfl
      obtain rfl := Option.some.inj (hwait.symm.trans (due?_eq_some.1 hi))
      exact hu
    · exact h.parked hp

/-- A wait ends, or is given up. -/
theorem endWait {state : WaitState} (h : state.isLive = false) :
    Alerts l s (s.setWait w state) := by
  refine setWait (fun hs => ?_) fun hs => ?_
  · rw [hs] at h
    cases h
  · rw [hs] at h
    cases h

theorem proceed (w : WaitId) (s : Switchboard) : Alerts l s (s.proceed w) := by
  have h := proceeded w s
  generalize s.proceed w = s' at h
  cases h with
  | idle => exact Std.Refl.refl s
  | ended => exact endWait rfl
  | @parked i x hw hx hc hu =>
    refine setWait nofun fun _ => ⟨i, due?_eq_some.2 hw, ?_⟩
    rw [unread?, hx]
    exact hu
  | read => exact (take _ s).trans (endWait rfl)

end Alerts

/-- A wait that has had its turn is not due any more. -/
theorem due?_proceed_ne (hl : l < s.listeners.length) : (s.proceed w).due? w ≠ some l := by
  intro hd
  have h := proceeded w s
  have hset {s' : Switchboard} {state : WaitState} (hstate : state ≠ .due) :
      (s'.setWait w state).due? w ≠ some l := by
    intro hd
    have hd := due?_eq_some.1 hd
    rw [getElem?_setWait, if_pos rfl] at hd
    obtain ⟨wait, -, hd⟩ := Option.map_eq_some_iff.1 hd
    exact hstate (Wait.mk.inj hd).2
  generalize s.proceed w = s' at h hd
  cases h with
  | idle h =>
    exact absurd (List.getElem?_eq_none_iff.1 (h l (due?_eq_some.1 hd))) (Nat.not_le.2 hl)
  | ended | parked | read =>
    refine hset ?_ hd
    nofun

/-- **A turn of the event loop** leaves nobody asleep. -/
theorem alerts_turn (l : ListenerId) (s : Switchboard) : Alerts l s s.turn := by
  unfold turn
  split
  · exact Std.Refl.refl s
  · rename_i i value queue hq
    have hpop : Alerts l s { s with queue } := by
      intro h
      refine ⟨h.lt_length, fun hd => ?_, h.parked⟩
      have hmem := h.due hd
      rw [hq] at hmem
      exact (List.mem_cons.1 hmem).resolve_left nofun
    exact hpop.trans (.arrive i value _)
  · rename_i w queue hq
    intro h
    rw [proceed_queue]
    have hproceed := Alerts.proceed w s h
    refine ⟨hproceed.lt_length, fun {w'} hd => ?_, hproceed.parked⟩
    have hmem := hproceed.due hd
    have hpopped : (s.proceed w).queue = .resume w :: queue := by
      have h := proceeded w s
      generalize s.proceed w = s' at h
      cases h <;> exact hq
    rw [hpopped] at hmem
    refine (List.mem_cons.1 hmem).resolve_left fun he => ?_
    obtain rfl := Job.resume.inj he
    exact due?_proceed_ne h.lt_length hd

/-! ### Operations and moves -/

section

variable (hreact : ∀ i value, Keeps (Alerts l) (react i value))

include hreact

/-- **A value handed to anybody** leaves nobody asleep, if callbacks do not. -/
theorem Handed.alerts (h : Handed react value i s s') : Alerts l s s' := by
  have hdeliver : Alerts l s (s.deliver i value) := .aside rfl rfl rfl
  cases h with
  | passed => exact Std.Refl.refl s
  | called _ h =>
    have hcall := hdeliver.trans (hreact i value _)
    rcases h with rfl | ⟨severity, message, rfl⟩
    · exact hcall
    · exact hcall.trans (.aside rfl rfl rfl)
  | stored => exact hdeliver.trans (.wake_modifyListener _ i _)
  | queued =>
    exact hdeliver.trans (.of_waits (le_refl _) (fun _ hu => hu)
      (fun _ hj => List.mem_append_left _ hj) rfl)
  | lost => exact hdeliver
  | @dropped topic unread closed message =>
    have hrecord : Alerts l s (s.record .debug message) := .aside rfl rfl rfl
    exact (hrecord.trans (.close i _)).trans (.aside rfl rfl rfl)

theorem keeps_alerts_hand (value : Bool) (i : ListenerId) :
    Keeps (Alerts l) (hand react value i) := by
  intro s
  rcases handed_cases react value i s with h | ⟨-, h⟩
  · exact h.alerts hreact
  · change Alerts l s (handed react value i s)
    have hdeliver : Alerts l s (s.deliver i value) := .aside rfl rfl rfl
    rw [h]
    exact hdeliver.trans (hreact i value _)

/-- **An operation leaves nobody asleep**, if callbacks do not. -/
theorem Transition.alerts (h : Transition react s o s') : Alerts l s s' := by
  have hredefined : Alerts l s (s.redefined o) := .aside rfl rfl rfl
  cases h with
  | idle _ _ h => exact hredefined.trans (.recorded h)
  | read _ h =>
    rcases h with rfl | ⟨rfl, -⟩
    · exact .take _ s
    · exact Std.Refl.refl _
  | loopClosed => exact .closeLoop _ s
  | shut => exact .closing _ _ s
  | unsubscribed => exact .aside rfl rfl rfl
  | ensured => exact .ensure _ _ s
  | refused => exact .ensure _ _ s
  | @writes _ w _ _ h =>
    exact ((hredefined.trans (.written w _)).trans
      (Keeps.of_forM (keeps_alerts_hand hreact w.value) (s.attached w.topic) _)).trans (.recorded h)
  | @enters _ e =>
    exact ((Alerts.entered e s).trans (keeps_alerts_hand hreact _ _ _)).trans (.aside rfl rfl rfl)

end

/-- **Whatever callbacks do** leaves nobody asleep. -/
theorem Lawful.alerts (h : Lawful plain react) (i : ListenerId) (value : Bool) :
    Keeps (Alerts l) (react i value) := fun s =>
  (h i value s).keeps (fun i f s => .rewritten i f s) fun hreact ho =>
    (execute_transition _ ho _).alerts hreact

/-- Somebody begins to wait. -/
theorem Alerts.startWait (i : ListenerId) (s : Switchboard) : Alerts l s (s.startWait i) := by
  intro h
  refine ⟨h.lt_length, fun {w} hd => ?_, fun {w} hp => ?_⟩
  · have hw := due?_eq_some.1 hd
    rw [Switchboard.startWait, List.getElem?_append] at hw
    split at hw
    · exact List.mem_append_left _ (h.due (due?_eq_some.2 hw))
    · rw [List.getElem?_singleton] at hw
      split at hw
      · rename_i hlt hsub
        obtain rfl := Nat.le_antisymm (Nat.sub_eq_zero_iff_le.1 hsub) (Nat.not_lt.1 hlt)
        exact List.mem_append_right _ List.mem_cons_self
      · cases hw
  · rw [Switchboard.startWait, List.getElem?_append] at hp
    split at hp
    · exact h.parked hp
    · rw [List.getElem?_singleton] at hp
      split at hp <;> cases hp

/-- **Whatever move is made** leaves nobody asleep. -/
theorem Move.Mild.alerts (hm : m.Mild s) : Alerts l s (m.after s) := by
  cases m with
  | operate react o => exact (execute_transition react hm.2.1 s).alerts hm.1.plain_of_mild.alerts
  | turn => exact alerts_turn l s
  | hasten w => exact .proceed w s
  | wait i => exact .startWait i s
  | abandon w => exact .endWait rfl
  | shut i =>
    rw [Move.after]
    rcases after_shut_cases i s with h | ⟨x, -, -, h⟩
    · rw [h]
      exact Std.Refl.refl s
    · rw [h]
      exact .closing i x s
  | place | record => exact .aside rfl rfl rfl

/-- **Whatever moves are made** leave nobody asleep. -/
theorem Mild.alerts {ms : List Move} (hms : Mild ms s) : Alerts l s (play ms s) := by
  induction ms generalizing s with
  | nil => exact Std.Refl.refl s
  | cons m ms ih => exact (Move.Mild.alerts hms.1).trans (ih hms.2)

/-! ## A private inbox while the loop runs -/

/-- **What the holder of an inbox goes by is as it was**: what is unread, what is held, and that a
turn of its wait is due. -/
structure Unmoved (l : ListenerId) (current : Option WaitId) (s s' : Switchboard) : Prop where
  unread : s'.unread? l = s.unread? l
  held : Switchboard.held s' current = Switchboard.held s current
  due : ∀ {w}, current = some w → s.due? w = some l → s'.due? w = some l

theorem Unmoved.refl (l : ListenerId) (current : Option WaitId) (s : Switchboard) :
    Unmoved l current s s := ⟨rfl, rfl, fun _ hd => hd⟩

/-- A wait of somebody else changes. -/
theorem Unmoved.setWait {state : WaitState} (hc : current ≠ some w)
    (hu : s'.unread? l = s.unread? l) (hw : s'.waits = s.waits) :
    Unmoved l current s (s'.setWait w state) := by
  have hwaits : (s'.setWait w state).waits = (s.setWait w state).waits := by
    rw [Switchboard.setWait, hw, Switchboard.setWait]
  refine ⟨hu, held_of_ne hwaits hc, fun {w'} he hd => due?_eq_some.2 ?_⟩
  have hne : w ≠ w' := fun h => hc (h ▸ he)
  rw [hwaits, getElem?_setWait, if_neg hne]
  exact due?_eq_some.1 hd

/-- What is unread has been read, and is held. -/
structure Taken (l : ListenerId) (current : Option WaitId) (s s' : Switchboard) : Prop where
  unread : s'.unread? l = none
  held : Switchboard.held s' current = Switchboard.held s current ++ (s.unread? l).toList

namespace Private

/-- **A wait has its turn**: it is the one of the holder, who then holds what was unread, or nothing
has moved. -/
theorem proceed_cases (h : s.Private l current false) (w : WaitId) :
    Taken l current s (s.proceed w) ∨ Unmoved l current s (s.proceed w) := by
  by_cases hd : s.due? w = some l
  · obtain ⟨topic, unread, hx⟩ := h.stands
    obtain ⟨hlistener, -, -, hvalue⟩ := proceed_of_due hd hx
    have hheld := (h.proceed w).2
    rw [valuesOf_waitReadings, hd, Option.toList_some, List.filterMap_cons, if_pos rfl,
      hvalue] at hheld
    refine .inl ⟨?_, hheld.trans ?_⟩
    · rw [unread?, hlistener]
      rfl
    · rw [unread?, hx]
      cases unread <;> rfl
  · right
    have hother {i : ListenerId} (hi : s.waits[w]? = some ⟨i, .due⟩) :
        l ≠ i ∧ current ≠ some w := by
      refine ⟨fun he => hd (due?_eq_some.2 (he ▸ hi)), fun hc => ?_⟩
      obtain ⟨state, hw, -⟩ := h.current hc
      cases hi.symm.trans hw
      exact hd (due?_eq_some.2 hi)
    have hcases := proceeded w s
    generalize s.proceed w = s' at hcases
    cases hcases with
    | idle => exact .refl l current s
    | ended hi => exact .setWait (hother hi).2 rfl rfl
    | parked hi => exact .setWait (hother hi).2 rfl rfl
    | read hi =>
      exact .setWait (hother hi).2 (unread?_modifyListener _ (hother hi).1) rfl

/-- **A turn of the loop** when nothing is on its way to an inbox. -/
theorem turn_cases (h : s.Private l current false) (hc : s.coming l = []) :
    s.turn.coming l = [] ∧ (Taken l current s s.turn ∨ Unmoved l current s s.turn) := by
  have hheld := h.turn.2
  rw [Move.readings] at hheld
  rw [Switchboard.turn] at hheld ⊢
  split
  · exact ⟨hc, .inr (.refl l current s)⟩
  · rename_i i value queue hq
    rw [coming_of_queue hq, List.append_eq_nil_iff] at hc
    have hi : l ≠ i := fun he => by
      rw [if_pos he.symm] at hc
      cases hc.1
    rw [hq] at hheld
    refine ⟨(coming_arrive i l value _).trans hc.2, .inr ⟨?_, ?_, fun {w} _ hd => ?_⟩⟩
    · rw [unread?, listener?_arrive, if_neg hi]
      rfl
    · exact hheld.trans (List.append_nil _)
    · rcases (Spares.turned (l := l) i value queue s).waits w with he | ⟨j, hp, -⟩
      · rw [due?_eq_some] at hd ⊢
        exact he.trans hd
      · cases (due?_eq_some.1 hd).symm.trans hp
  · rename_i w queue hq
    refine ⟨(coming_proceed w l _).trans ((coming_pop hq).trans hc), ?_⟩
    rw [proceed_queue]
    exact (h.proceed_cases w).imp (fun ht => ⟨ht.unread, ht.held⟩)
      fun hu => ⟨hu.unread, hu.held, hu.due⟩

theorem settle (h : s.Private l current closed) : s.settle.Private l current closed :=
  settle_induction (·.Private l current closed) (fun _ h => h.turn.1) h

/-- While the loop runs nothing is read from an inbox that is empty and to which nothing is on its
way. -/
theorem settle_of_empty (h : s.Private l current false) (hc : s.coming l = [])
    (hu : s.unread? l = none) :
    s.settle.unread? l = none ∧ held s.settle current = held s current := by
  refine (settle_induction (fun t => t.Private l current false ∧ t.coming l = [] ∧
    t.unread? l = none ∧ held t current = held s current) ?_ ⟨h, hc, hu, rfl⟩).2.2
  rintro t ⟨h, hc, hu, hheld⟩
  obtain ⟨hc', htaken | hunmoved⟩ := h.turn_cases hc
  · refine ⟨h.turn.1, hc', htaken.unread, htaken.held.trans ?_⟩
    rw [hu, Option.toList_none, List.append_nil, hheld]
  · exact ⟨h.turn.1, hc', hunmoved.unread.trans hu, hunmoved.held.trans hheld⟩

end Private

/-- At an inbox for which nobody waits there is nobody to sleep. -/
theorem Private.alert (h : s.Private l none closed) : s.Alert l := by
  refine ⟨h.lt_length, fun hd => ?_, fun hp => ?_⟩
  · cases h.live (due?_eq_some.1 hd) rfl
  · cases h.live hp rfl

theorem Alert.settle (h : s.Alert l) : s.settle.Alert l :=
  settle_induction (·.Alert l) (alerts_turn l) h

theorem coming_of_idle (h : s.queue = []) : s.coming l = [] := by
  rw [coming, h]
  rfl

/-- **When the loop is idle, no wait is due**, if nobody sleeps over a value. -/
theorem Alert.not_due (h : s.Alert l) (hq : s.queue = []) (w : WaitId) : s.due? w ≠ some l := by
  intro hd
  have hmem := h.due hd
  rw [hq] at hmem
  cases hmem

/-- **An inbox is about to be read empty**: nothing is on its way to it, and if something is unread
the wait of its holder is due. -/
structure Draining (s : Switchboard) (l : ListenerId) (current : Option WaitId) : Prop where
  coming : s.coming l = []
  unread : s.unread? l = none ∨ ∃ w, current = some w ∧ s.due? w = some l

namespace Draining

theorem turn (hd : s.Draining l current) (h : s.Private l current false) :
    s.turn.Draining l current := by
  obtain ⟨hc, htaken | hunmoved⟩ := h.turn_cases hd.coming
  · exact ⟨hc, .inl htaken.unread⟩
  · exact ⟨hc, hd.unread.imp hunmoved.unread.trans fun ⟨w, hw, hdue⟩ =>
      ⟨w, hw, hunmoved.due hw hdue⟩⟩

/-- **What was about to be read has been read when the loop is idle.** -/
theorem unread?_settle (hd : s.Draining l current) (h : s.Private l current false)
    (ha : s.Alert l) : s.settle.unread? l = none := by
  obtain ⟨-, hd'⟩ := settle_induction
    (fun t => t.Private l current false ∧ t.Draining l current)
    (fun t ht => ⟨ht.1.turn.1, ht.2.turn ht.1⟩) ⟨h, hd⟩
  refine hd'.unread.resolve_right ?_
  rintro ⟨w, -, hdue⟩
  exact ha.settle.not_due (queue_settle s) w hdue

end Draining

end Switchboard

end FeatureFlags

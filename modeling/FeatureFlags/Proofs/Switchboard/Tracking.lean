import FeatureFlags.Proofs.Switchboard.Reception
import FeatureFlags.Proofs.Switchboard.Slot

/-!
# Proofs/Switchboard/Tracking — what operations do to a slot

A switchboard shows a slot (`Shows`) of each reader and of each inbox whose loop does not stand
still.  Whatever is done, other than reading from it, makes steps of it (`Transition.tracks`), if
callbacks do no more.  What is on its way to an inbox has been handed to it before (`Backed`).
-/

namespace FeatureFlags

namespace Switchboard

variable {react : React} {s s' s'' : Switchboard} {l i : ListenerId} {slot : Slot} {o : Operation}
  {value : Bool}

/-! ## What a switchboard shows of a slot -/

/-- The values on their way to an inbox. -/
def coming (s : Switchboard) (l : ListenerId) : List Bool := s.queue.filterMap (Job.valueFor l)

/-- The values that have arrived at a listener: what was handed to it and is not on its way. -/
def arrived (s : Switchboard) (l : ListenerId) : List Bool :=
  (received l s.history).take ((received l s.history).length - (s.coming l).length)

/-- **A switchboard shows a slot.** -/
structure Shows (s : Switchboard) (l : ListenerId) (slot : Slot) : Prop where
  listener : s.listener? l = some slot.listener
  reached : slot.listener.isReached
  coming : s.coming l = slot.coming
  received : received l s.history = slot.arrived ++ slot.coming
  direct : slot.listener.isReader → slot.coming = []

theorem Shows.arrived_eq (h : s.Shows l slot) : s.arrived l = slot.arrived := by
  rw [arrived, h.received, h.coming, List.length_append, Nat.add_sub_cancel, List.take_left]

/-- **A slot goes its way** by steps. -/
def Tracks (l : ListenerId) (s s' : Switchboard) : Prop :=
  ∀ slot, s.Shows l slot → ∃ slot', s'.Shows l slot' ∧ Slot.Steps slot slot'

theorem Tracks.trans (h : Tracks l s s') (h' : Tracks l s' s'') : Tracks l s s'' := by
  intro slot hs
  obtain ⟨slot', hs', hsteps⟩ := h slot hs
  obtain ⟨slot'', hs'', hsteps'⟩ := h' slot' hs'
  exact ⟨slot'', hs'', hsteps.trans hsteps'⟩

instance : Std.Refl (Tracks l) := ⟨fun _ slot hs => ⟨slot, hs, .refl⟩⟩

instance : Trans (Tracks l) (Tracks l) (Tracks l) := ⟨Tracks.trans⟩

/-! ## Elementary changes -/

theorem coming_enqueue (i l : ListenerId) (value : Bool) (s : Switchboard) :
    (s.enqueue i value).coming l = s.coming l ++ if i = l then [value] else [] := by
  rw [coming, enqueue, List.filterMap_append, coming]
  by_cases h : i = l
  · simp [Job.valueFor, h]
  · simp [Job.valueFor, h]

theorem coming_wake (i l : ListenerId) (s : Switchboard) : (s.wake i).coming l = s.coming l := by
  rw [coming, wake, List.filterMap_append, coming, List.filterMap_map]
  simp [Function.comp_def, Job.valueFor]

theorem coming_startWait (i l : ListenerId) (s : Switchboard) :
    (s.startWait i).coming l = s.coming l := by
  rw [coming, startWait, List.filterMap_append, coming]
  exact List.append_nil _

theorem coming_proceed (w : WaitId) (l : ListenerId) (s : Switchboard) :
    (s.proceed w).coming l = s.coming l := by
  have h := proceeded w s
  generalize s.proceed w = s' at h
  cases h <;> rfl

theorem received_deliver (i l : ListenerId) (value : Bool) (s : Switchboard) :
    received l (s.deliver i value).history
      = received l s.history ++ if i = l then [value] else [] := by
  rw [deliver, received_append, received_handed]

theorem received_ensure (topic : Text) (b : Bool) (s : Switchboard) :
    received l (s.ensure topic b).history = received l s.history := by
  unfold ensure
  split
  · rfl
  · rw [received_append, received_written, List.append_nil]

theorem received_write (topic : Text) (value : Bool) (s : Switchboard) :
    received l (s.write topic value).history = received l s.history := by
  rw [write, received_append, received_written, List.append_nil]

theorem queue_ensure (topic : Text) (b : Bool) (s : Switchboard) :
    (s.ensure topic b).queue = s.queue := by
  unfold ensure
  split <;> rfl

namespace Tracks

/-- What is no concern of a slot. -/
theorem aside (hl : s'.listener? l = s.listener? l) (hc : s'.coming l = s.coming l)
    (hr : received l s'.history = received l s.history) : Tracks l s s' := by
  intro slot h
  exact ⟨slot, ⟨hl.trans h.listener, h.reached, hc.trans h.coming, hr.trans h.received, h.direct⟩,
    .refl⟩

theorem recorded (h : Recorded s s') : Tracks l s s' := by
  rw [h]
  exact aside rfl rfl rfl

theorem modifyListener (hi : l ≠ i) (f : Listener → Listener) (s : Switchboard) :
    Tracks l s (s.modifyListener i f) := by
  refine aside ?_ rfl rfl
  rw [listener?_modifyListener, if_neg hi]

theorem deliver (hi : i ≠ l) (value : Bool) (s : Switchboard) :
    Tracks l s (s.deliver i value) := by
  refine aside rfl rfl ?_
  rw [received_deliver, if_neg hi, List.append_nil]

theorem wake (i : ListenerId) (s : Switchboard) : Tracks l s (s.wake i) :=
  aside rfl (coming_wake i l s) rfl

theorem ensure (topic : Text) (b : Bool) (s : Switchboard) : Tracks l s (s.ensure topic b) := by
  refine aside ?_ ?_ (received_ensure topic b s)
  · rw [listener?, listeners_ensure, listener?]
  · rw [coming, queue_ensure, coming]

theorem written (w : Writing) (s : Switchboard) : Tracks l s (s.written w) :=
  (ensure w.topic w.initial s).trans (aside rfl rfl (received_write w.topic w.value _))

/-- Who is there is not concerned by who enters. -/
theorem entered (e : Entrance) (s : Switchboard) : Tracks l s (s.entered e) := by
  refine (ensure e.topic (s.first e) s).trans fun slot h => ?_
  obtain ⟨hlt, -⟩ := List.getElem?_eq_some_iff.1 h.listener
  have hstays : (s.entered e).listener? l = (s.ensure e.topic (s.first e)).listener? l :=
    List.getElem?_append_left hlt
  exact aside hstays rfl rfl slot h

/-- Scripts are no concern of a slot. -/
theorem rewritten (i : ListenerId) (f : Script → Script) (s : Switchboard) :
    Tracks l s (s.rewritten i f) := by
  intro slot h
  have hstays : (s.rewritten i f).listener? l = s.listener? l := by
    rw [Switchboard.rewritten, listener?_modifyListener]
    by_cases hi : l = i
    · have hr := h.reached
      rw [if_pos hi, h.listener, Option.map_some]
      cases hx : slot.listener with
      | callback | recorder =>
        rw [hx] at hr
        cases hr
      | _ => rfl
    · rw [if_neg hi]
  exact aside hstays rfl rfl slot h

/-- **Somebody is closed.** -/
theorem close (i : ListenerId) (s : Switchboard) :
    Tracks l s (s.modifyListener i (·.close)) := by
  by_cases hi : l = i
  · subst hi
    intro slot h
    have hs : Slot.Step slot ⟨slot.listener.close, slot.arrived, slot.coming⟩ := .closes
    refine ⟨_, ⟨?_, hs.isReached h.reached, h.coming, h.received, fun hr => h.direct ?_⟩,
      .single hs⟩
    · rw [listener?_modifyListener, if_pos rfl, h.listener]
      rfl
    · cases hx : slot.listener with
      | reader => rfl
      | _ =>
        rw [hx] at hr
        cases hr
  · exact modifyListener hi _ s

/-- **The loop of somebody is closed.** -/
theorem closeLoop (i : ListenerId) (s : Switchboard) :
    Tracks l s (s.modifyListener i (·.closeLoop)) := by
  by_cases hi : l = i
  · subst hi
    intro slot h
    have hs : Slot.Step slot ⟨slot.listener.closeLoop, slot.arrived, slot.coming⟩ := .closesLoop
    refine ⟨_, ⟨?_, hs.isReached h.reached, h.coming, h.received, fun hr => h.direct ?_⟩,
      .single hs⟩
    · rw [listener?_modifyListener, if_pos rfl, h.listener]
      rfl
    · cases hx : slot.listener with
      | reader => rfl
      | _ =>
        rw [hx] at hr
        cases hr
  · exact modifyListener hi _ s

/-- **Somebody is shut.** -/
theorem closing (i : ListenerId) (x : Listener) (s : Switchboard) : Tracks l s (s.closing i x) := by
  have h := (close (l := l) i s).trans (wake i _)
  rw [Switchboard.closing]
  split
  · exact h
  · exact h.trans (aside rfl rfl rfl)

end Tracks

/-! ## Handing -/

/-- Who shows a slot is no callback. -/
theorem Shows.ne_callback (h : s.Shows l slot) {label topic : Text} {script : Script}
    (hx : s.listener? i = some (.callback label topic script)) : i ≠ l := by
  rintro rfl
  have hr := h.reached
  rw [← Option.some.inj (hx.symm.trans h.listener)] at hr
  cases hr

theorem Shows.ne_recorder (h : s.Shows l slot) {label : Text} {script : Script}
    (hx : s.listener? i = some (.recorder label script)) : i ≠ l := by
  rintro rfl
  have hr := h.reached
  rw [← Option.some.inj (hx.symm.trans h.listener)] at hr
  cases hr

/-- A reader stores the value it is handed. -/
theorem Tracks.stored {topic : Text} {unread : Option Bool}
    (hx : s.listener? i = some (.reader topic unread false)) :
    Tracks l s (((s.deliver i value).modifyListener i (·.store value)).wake i) := by
  by_cases hi : i = l
  · subst hi
    intro slot h
    obtain ⟨x, arrived, coming⟩ := slot
    obtain ⟨hl, hr, hc, hrec, hd⟩ := h
    dsimp only at hl hc hrec hd
    obtain rfl : Listener.reader topic unread false = x := Option.some.inj (hx.symm.trans hl)
    obtain rfl : coming = [] := hd rfl
    refine ⟨_, ⟨?_, rfl, ?_, ?_, fun _ => rfl⟩, .single (.stored value)⟩
    · change ((s.deliver i value).modifyListener i (·.store value)).listener? i = _
      rw [listener?_modifyListener, if_pos rfl]
      exact congrArg (Option.map _) hx
    · exact (coming_wake i i _).trans hc
    · change received i (s.deliver i value).history = _
      rw [received_deliver, if_pos rfl, hrec, List.append_nil, List.append_nil]
  · exact ((Tracks.deliver hi value s).trans (.modifyListener (Ne.symm hi) _ _)).trans (.wake i _)

/-- A value for an inbox is on its way. -/
theorem Tracks.queued {topic : Text} {unread : Option Bool} {closed : Bool}
    (hx : s.listener? i = some (.inbox topic .running unread closed)) :
    Tracks l s ((s.deliver i value).enqueue i value) := by
  by_cases hi : i = l
  · subst hi
    intro slot h
    obtain ⟨x, arrived, coming⟩ := slot
    obtain ⟨hl, hr, hc, hrec, hd⟩ := h
    dsimp only at hl hc hrec hd
    obtain rfl : Listener.inbox topic .running unread closed = x :=
      Option.some.inj (hx.symm.trans hl)
    refine ⟨⟨.inbox topic .running unread closed, arrived, coming ++ [value]⟩,
      ⟨hx, hr, ?_, ?_, nofun⟩, .single (.queued value)⟩
    · rw [coming_enqueue, if_pos rfl]
      exact congrArg (· ++ [value]) hc
    · change received i (s.deliver i value).history = _
      rw [received_deliver, if_pos rfl, hrec, List.append_assoc]
  · refine (Tracks.deliver hi value s).trans (.aside rfl ?_ rfl)
    rw [coming_enqueue, if_neg hi, List.append_nil]

section

variable (hreact : ∀ i value, Keeps (Tracks l) (react i value))

include hreact

/-- **A value handed to somebody** makes steps of a slot, if callbacks do. -/
theorem Handed.tracks (h : Handed react value i s s') : Tracks l s s' := by
  cases h with
  | passed => exact Std.Refl.refl s
  | called hx h =>
    intro slot hs
    have hcall : Tracks l s (after (react i value) (s.deliver i value)) :=
      (Tracks.deliver (hs.ne_callback hx) value s).trans (hreact i value _)
    rcases h with rfl | ⟨severity, message, rfl⟩
    · exact hcall slot hs
    · have hrecord : Tracks l (after (react i value) (s.deliver i value))
          ((after (react i value) (s.deliver i value)).record severity message) :=
        .aside rfl rfl rfl
      exact hcall.trans hrecord slot hs
  | stored hx => exact .stored hx
  | queued hx => exact .queued hx
  | lost hx =>
    intro slot hs
    refine Tracks.deliver ?_ value s slot hs
    rintro rfl
    have hr := hs.reached
    rw [← Option.some.inj (hx.symm.trans hs.listener)] at hr
    cases hr
  | @dropped topic unread closed message hx =>
    have hrecord : Tracks l s (s.record .debug message) := .aside rfl rfl rfl
    exact (hrecord.trans (.close i _)).trans (.aside rfl rfl rfl)

theorem keeps_tracks_hand (value : Bool) (i : ListenerId) :
    Keeps (Tracks l) (hand react value i) := by
  intro s
  rcases handed_cases react value i s with h | ⟨⟨label, script, hx⟩, h⟩
  · exact h.tracks hreact
  · intro slot hs
    change ∃ slot', (handed react value i s).Shows l slot' ∧ _
    rw [h]
    exact (Tracks.deliver (hs.ne_recorder hx) value s).trans (hreact i value _) slot hs

theorem tracks_fanOut (value : Bool) (ls : List ListenerId) (s : Switchboard) :
    Tracks l s (fanOut react value ls s) :=
  Keeps.of_forM (fun i => keeps_tracks_hand hreact value i) ls s

/-- **An operation that does not read from a slot** makes steps of it. -/
theorem Transition.tracks (h : Transition react s o s') (hr : s.reads? o ≠ some l) :
    Tracks l s s' := by
  cases h with
  | idle _ _ h =>
    have hredefined : Tracks l s (s.redefined o) := .aside rfl rfl rfl
    exact hredefined.trans (.recorded h)
  | @read _ i _ hi h =>
    rcases h with rfl | ⟨rfl, -⟩
    · refine .modifyListener ?_ _ s
      rintro rfl
      exact hr hi
    · exact Std.Refl.refl _
  | loopClosed => exact .closeLoop _ s
  | shut => exact .closing _ _ s
  | unsubscribed => exact .aside rfl rfl rfl
  | ensured => exact .ensure _ _ s
  | refused => exact .ensure _ _ s
  | @writes _ w _ _ h =>
    have hredefined : Tracks l s (s.redefined o) := .aside rfl rfl rfl
    exact ((hredefined.trans (.written w _)).trans
      (tracks_fanOut hreact w.value (s.attached w.topic) _)).trans (.recorded h)
  | @enters _ e ho =>
    exact ((Tracks.entered e s).trans (keeps_tracks_hand hreact _ _ _)).trans (.aside rfl rfl rfl)

end

/-- Callbacks that close observations at most make steps of a slot. -/
theorem Lawful.tracks (h : Lawful mild react) (i : ListenerId) (value : Bool) :
    Keeps (Tracks l) (react i value) := fun s => by
  refine (h i value s).keeps (fun i f s => .rewritten i f s) ?_
  rintro react _ s hreact ⟨id, rfl⟩
  exact (execute_transition react rfl s).tracks hreact nofun

/-! ## What is on its way -/

/-- **What is on its way** to a listener has been handed to it. -/
def Backed (s : Switchboard) : Prop := ∀ l, (s.coming l).Sublist (received l s.history)

/-- What is on its way stays backed. -/
def Backs (s s' : Switchboard) : Prop := Backed s → Backed s'

instance : Std.Refl Backs := ⟨fun _ => id⟩

instance : Trans Backs Backs Backs := ⟨fun h h' hs => h' (h hs)⟩

namespace Backs

theorem trans (h : Backs s s') (h' : Backs s' s'') : Backs s s'' := fun hs => h' (h hs)

/-- No more is on its way, and more was handed. -/
theorem of_grows (hc : ∀ l, (s'.coming l).Sublist (s.coming l))
    (hr : ∀ l, (received l s.history).Sublist (received l s'.history)) : Backs s s' :=
  fun hs l => ((hc l).trans (hs l)).trans (hr l)

theorem of_eq (hc : ∀ l, s'.coming l = s.coming l)
    (hr : ∀ l, received l s'.history = received l s.history) : Backs s s' :=
  of_grows (fun l => hc l ▸ .refl _) fun l => hr l ▸ .refl _

theorem aside (hq : s'.queue = s.queue) (hh : s'.history = s.history) : Backs s s' :=
  of_eq (fun l => by rw [coming, hq, coming]) fun l => by rw [hh]

theorem recorded (h : Recorded s s') : Backs s s' := by
  rw [h]
  exact aside rfl rfl

theorem deliver (i : ListenerId) (value : Bool) (s : Switchboard) :
    Backs s (s.deliver i value) := by
  refine of_grows (fun _ => .refl _) fun l => ?_
  rw [received_deliver]
  exact List.sublist_append_left _ _

theorem enqueue (i : ListenerId) (value : Bool) (s : Switchboard) :
    Backs s ((s.deliver i value).enqueue i value) := by
  intro hs l
  rw [coming_enqueue]
  change (s.coming l ++ _).Sublist (received l (s.deliver i value).history)
  rw [received_deliver]
  exact (hs l).append_right _

theorem wake (i : ListenerId) (s : Switchboard) : Backs s (s.wake i) :=
  of_eq (fun l => coming_wake i l s) fun _ => rfl

theorem ensure (topic : Text) (b : Bool) (s : Switchboard) : Backs s (s.ensure topic b) :=
  of_eq (fun l => by rw [coming, queue_ensure, coming]) fun _ => received_ensure topic b s

theorem written (w : Writing) (s : Switchboard) : Backs s (s.written w) :=
  (ensure w.topic w.initial s).trans
    (of_eq (fun _ => rfl) fun _ => received_write w.topic w.value _)

theorem entered (e : Entrance) (s : Switchboard) : Backs s (s.entered e) :=
  (ensure e.topic (s.first e) s).trans (aside rfl rfl)

theorem closing (i : ListenerId) (x : Listener) (s : Switchboard) : Backs s (s.closing i x) := by
  have hclose : Backs s (s.modifyListener i (·.close)) := aside rfl rfl
  rw [Switchboard.closing]
  split
  · exact hclose.trans (wake i _)
  · exact (hclose.trans (wake i _)).trans (aside rfl rfl)

end Backs

theorem Handed.backs (hreact : ∀ i value, Keeps Backs (react i value))
    (h : Handed react value i s s') : Backs s s' := by
  cases h with
  | passed => exact Std.Refl.refl s
  | called _ h =>
    have hcall := (Backs.deliver i value s).trans (hreact i value _)
    rcases h with rfl | ⟨severity, message, rfl⟩
    · exact hcall
    · exact hcall.trans (.aside rfl rfl)
  | stored => exact ((Backs.deliver i value s).trans (.aside rfl rfl)).trans (.wake i _)
  | queued => exact .enqueue i value s
  | lost => exact .deliver i value s
  | dropped => exact .aside rfl rfl

theorem keeps_backs_hand (hreact : ∀ i value, Keeps Backs (react i value)) (value : Bool)
    (i : ListenerId) : Keeps Backs (hand react value i) := by
  intro s
  rcases handed_cases react value i s with h | ⟨-, h⟩
  · exact h.backs hreact
  · change Backs s (handed react value i s)
    rw [h]
    exact (Backs.deliver i value s).trans (hreact i value _)

theorem Transition.backs (hreact : ∀ i value, Keeps Backs (react i value))
    (h : Transition react s o s') : Backs s s' := by
  cases h with
  | idle _ _ h =>
    have hredefined : Backs s (s.redefined o) := .aside rfl rfl
    exact hredefined.trans (.recorded h)
  | read _ h =>
    rcases h with rfl | ⟨rfl, -⟩
    · exact .aside rfl rfl
    · exact Std.Refl.refl _
  | loopClosed => exact .aside rfl rfl
  | shut => exact .closing _ _ s
  | unsubscribed => exact .aside rfl rfl
  | ensured => exact .ensure _ _ s
  | refused => exact .ensure _ _ s
  | @writes _ w _ _ h =>
    have hredefined : Backs s (s.redefined o) := .aside rfl rfl
    exact ((hredefined.trans (.written w _)).trans
      (Keeps.of_forM (keeps_backs_hand hreact w.value) (s.attached w.topic) _)).trans (.recorded h)
  | @enters _ e =>
    exact ((Backs.entered e s).trans (keeps_backs_hand hreact _ _ _)).trans (.aside rfl rfl)

/-- Callbacks that close observations at most send nothing on its way. -/
theorem Lawful.backs (h : Lawful mild react) (i : ListenerId) (value : Bool) :
    Keeps Backs (react i value) := fun s => by
  refine (h i value s).keeps (fun _ _ _ => .aside rfl rfl) ?_
  rintro react _ s hreact ⟨id, rfl⟩
  exact (execute_transition react rfl s).backs hreact

end Switchboard

end FeatureFlags

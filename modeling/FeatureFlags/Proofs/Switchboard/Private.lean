import FeatureFlags.Proofs.Switchboard.Passing

/-!
# Proofs/Switchboard/Private — an inbox that nobody else has a name for

Operations reach readers and inboxes by their identifiers.  An inbox that has none is left alone by
all of them (`Transition.spares`): it is not read from and not closed, and of its waits some are
woken.  So whoever holds it knows how its waits stand (`Private`): only the current one may still
become over, and what it is over with was read at that moment (`Private.move`).  A listener that is
about to enter is spared as well, so no wait is there before it (`Placed.move`).
-/

namespace FeatureFlags

/-- A wait that may still become over. -/
def WaitState.isLive : WaitState → Bool
  | .parked => true
  | .due => true
  | _ => false

namespace Switchboard

variable {react : React} {s s' s'' : Switchboard} {l i : ListenerId} {o : Operation}
  {value closed : Bool} {current : Option WaitId} {w : WaitId} {m : Move}

/-- There is an inbox of the running event loop, closed or not. -/
def Stands (s : Switchboard) (l : ListenerId) (closed : Bool) : Prop :=
  ∃ topic unread, s.listener? l = some (.inbox topic .running unread closed)

theorem Stands.isShut_eq (h : s.Stands l closed) : s.isShut l = closed := by
  obtain ⟨topic, unread, hx⟩ := h
  rw [isShut, hx]
  rfl

theorem Stands.not_isCallback (h : s.Stands l closed) : ¬ s.IsCallback l := by
  obtain ⟨topic, unread, hx⟩ := h
  rw [isCallback_iff hx]
  exact Bool.false_ne_true

/-- **An inbox is spared**: it stands as it stood, no identifier is given to it, and of all waits
some are woken. -/
structure Spares (l : ListenerId) (s s' : Switchboard) : Prop where
  length : s.listeners.length ≤ s'.listeners.length
  names : ∀ {id i}, s'.named? .observation id = some i →
    s.named? .observation id = some i ∨ s.listeners.length ≤ i
  waits : ∀ w : WaitId, s'.waits[w]? = s.waits[w]? ∨
    ∃ i : ListenerId, s.waits[w]? = some (Wait.mk i .parked) ∧ s'.waits[w]? = some (Wait.mk i .due)
  stands : ∀ {closed}, s.Stands l closed → s'.Stands l closed

namespace Spares

theorem trans (h : Spares l s s') (h' : Spares l s' s'') : Spares l s s'' := by
  refine ⟨h.length.trans h'.length, fun hn => ?_, fun w => ?_, fun hs => h'.stands (h.stands hs)⟩
  · rcases h'.names hn with hn | hi
    · exact h.names hn
    · exact .inr (h.length.trans hi)
  · rcases h'.waits w with hw' | ⟨i, hp, hw'⟩
    · rw [hw']
      exact h.waits w
    · rcases h.waits w with hw | ⟨j, -, hd⟩
      · exact .inr ⟨i, hw.symm.trans hp, hw'⟩
      · exact nomatch hd.symm.trans hp

instance : Std.Refl (Spares l) := ⟨fun _ => ⟨le_refl _, .inl, fun _ => .inl rfl, id⟩⟩

instance : Trans (Spares l) (Spares l) (Spares l) := ⟨trans⟩

/-- What concerns neither listeners nor identifiers nor waits. -/
theorem aside (hl : s'.listeners = s.listeners) (hd : s'.directory = s.directory)
    (hw : s'.waits = s.waits) : Spares l s s' := by
  refine ⟨by rw [hl], fun hn => .inl ?_, fun w => .inl (by rw [hw]), fun hs => ?_⟩
  · rwa [named?, hd] at hn
  · rwa [Stands, listener?, hl]

theorem recorded (h : Recorded s s') : Spares l s s' := by
  rw [h]
  exact aside rfl rfl rfl

theorem modifyListener (f : Listener → Listener) (hi : ∀ {closed}, s.Stands l closed → l ≠ i) :
    Spares l s (s.modifyListener i f) := by
  refine ⟨le_of_eq (List.length_modify ..).symm, .inl, fun _ => .inl rfl, fun hs => ?_⟩
  rwa [Stands, listener?_modifyListener, if_neg (hi hs)]

/-- Waking the waits of anybody. -/
theorem wake (i : ListenerId) (s : Switchboard) : Spares l s (s.wake i) := by
  refine ⟨le_refl _, .inl, fun w => ?_, id⟩
  rw [Switchboard.wake, List.getElem?_map]
  cases hw : s.waits[w]? with
  | none => exact .inl rfl
  | some wait =>
    by_cases hp : wait = ⟨i, .parked⟩
    · rw [Option.map_some, if_pos hp, hp]
      exact .inr ⟨i, rfl, rfl⟩
    · rw [Option.map_some, if_neg hp]
      exact .inl rfl

theorem ensure (topic : Text) (b : Bool) (s : Switchboard) : Spares l s (s.ensure topic b) := by
  refine aside (listeners_ensure topic b s) (directory_ensure topic b s) ?_
  unfold Switchboard.ensure
  split <;> rfl

theorem written (w : Writing) (s : Switchboard) : Spares l s (s.written w) :=
  (ensure w.topic w.initial s).trans (aside rfl rfl rfl)

/-- A listener that enters is another one. -/
theorem entered (e : Entrance) (s : Switchboard) : Spares l s (s.entered e) := by
  refine (ensure e.topic (s.first e) s).trans ⟨?_, .inl, fun _ => .inl rfl, ?_⟩
  · rw [listeners_entered, listeners_ensure, List.length_append]
    exact Nat.le_add_right _ _
  · rintro closed ⟨topic, unread, hx⟩
    obtain ⟨hlt, -⟩ := List.getElem?_eq_some_iff.1 hx
    exact ⟨topic, unread, (List.getElem?_append_left hlt).trans hx⟩

/-- A value arrives at anybody. -/
theorem arrive (i : ListenerId) (value : Bool) (s : Switchboard) :
    Spares l s (s.arrive i value) := by
  have hstore : Spares l s (s.modifyListener i (·.store value)) := by
    refine ⟨le_of_eq (List.length_modify ..).symm, .inl, fun _ => .inl rfl, ?_⟩
    rintro closed ⟨topic, unread, hx⟩
    rw [Stands, listener?_modifyListener, hx]
    split
    · cases closed with
      | true => exact ⟨topic, unread, rfl⟩
      | false => exact ⟨topic, some value, rfl⟩
    · exact ⟨topic, unread, rfl⟩
  rcases arrive_cases i value s with h | h
  · rw [h]
    exact Std.Refl.refl s
  · rw [h]
    exact hstore.trans (.wake i _)

theorem closing (x : Listener) (hi : ∀ {closed}, s.Stands l closed → l ≠ i) :
    Spares l s (s.closing i x) := by
  have h := (modifyListener (·.close) hi).trans (wake i _)
  rw [Switchboard.closing]
  split
  · exact h
  · exact h.trans (aside rfl rfl rfl)

/-- Anybody else is closed. -/
theorem shut (hi : ∀ {closed}, s.Stands l closed → l ≠ i) :
    Spares l s (after (Switchboard.shut i) s) := by
  rcases after_shut_cases i s with h | ⟨x, -, -, h⟩
  · rw [h]
    exact Std.Refl.refl s
  · rw [h]
    exact closing x hi

/-- The first of the queue, a value on its way, arrives. -/
theorem turned (i : ListenerId) (value : Bool) (queue : List Job) (s : Switchboard) :
    Spares l s (({ s with queue } : Switchboard).arrive i value) :=
  (aside rfl rfl rfl : Spares l s { s with queue }).trans (arrive i value _)

end Spares

/-- Scripts are rewritten, of which an inbox has none. -/
theorem spares_rewritten (i : ListenerId) (f : Script → Script) (s : Switchboard) :
    Spares l s (s.rewritten i f) := by
  refine ⟨le_of_eq (List.length_modify ..).symm, .inl, fun _ => .inl rfl, ?_⟩
  rintro closed ⟨topic, unread, hx⟩
  refine ⟨topic, unread, ?_⟩
  rw [Switchboard.rewritten, listener?_modifyListener, hx]
  split <;> rfl

/-- Quiet callbacks spare an inbox. -/
theorem Lawful.spares (h : Lawful quiet react) (i : ListenerId) (value : Bool) :
    Keeps (Spares l) (react i value) := fun s =>
  (h i value s).keeps (fun i f s => spares_rewritten i f s) fun _ ho => ho.elim

section

variable (hreact : ∀ i value, Keeps (Spares l) (react i value))

include hreact

/-- **A value handed to anybody** spares an inbox, if callbacks do. -/
theorem Handed.spares (h : Handed react value i s s') : Spares l s s' := by
  have hdeliver : Spares l s (s.deliver i value) := .aside rfl rfl rfl
  cases h with
  | passed => exact Std.Refl.refl s
  | called _ h =>
    have hcall := hdeliver.trans (hreact i value _)
    rcases h with rfl | ⟨severity, message, rfl⟩
    · exact hcall
    · exact hcall.trans (.aside rfl rfl rfl)
  | stored hx =>
    refine (hdeliver.trans (.modifyListener _ ?_)).trans (.wake i _)
    rintro closed ⟨topic, unread, hl⟩ rfl
    exact nomatch hx.symm.trans hl
  | queued => exact hdeliver.trans (.aside rfl rfl rfl)
  | lost => exact hdeliver
  | @dropped t unread closed message hx =>
    have hrecord : Spares l s (s.record .debug message) := .aside rfl rfl rfl
    refine (hrecord.trans (.modifyListener _ ?_)).trans (.aside rfl rfl rfl)
    rintro closed ⟨topic, unread, hl⟩ rfl
    exact nomatch hx.symm.trans hl

theorem keeps_spares_hand (value : Bool) (i : ListenerId) :
    Keeps (Spares l) (hand react value i) := by
  intro s
  rcases handed_cases react value i s with h | ⟨-, h⟩
  · exact h.spares hreact
  · change Spares l s (handed react value i s)
    have hdeliver : Spares l s (s.deliver i value) := .aside rfl rfl rfl
    rw [h]
    exact hdeliver.trans (hreact i value _)

/-- **An operation spares an inbox that has no identifier.** -/
theorem Transition.spares (h : Transition react s o s')
    (hl : ∀ id, s.named? .observation id ≠ some l) : Spares l s s' := by
  have hother {id : Text} {i : ListenerId} (hn : s.named? .observation id = some i) : l ≠ i := by
    rintro rfl
    exact hl id hn
  have hredefined : Spares l s (s.redefined o) := .aside rfl rfl rfl
  cases h with
  | idle _ _ h => exact hredefined.trans (.recorded h)
  | @read _ i _ hr h =>
    rcases h with rfl | ⟨rfl, -⟩
    · refine .modifyListener _ fun _ => ?_
      cases o with
      | poll id | next id => exact hother hr
      | _ => cases hr
    · exact Std.Refl.refl _
  | loopClosed hn => exact .modifyListener _ fun _ => hother hn
  | shut hn => exact .closing _ fun _ => hother hn
  | unsubscribed => exact .aside rfl rfl rfl
  | ensured => exact .ensure _ _ s
  | refused => exact .ensure _ _ s
  | @writes _ w _ _ h =>
    exact ((hredefined.trans (.written w _)).trans
      (Keeps.of_forM (keeps_spares_hand hreact w.value) (s.attached w.topic) _)).trans (.recorded h)
  | @enters _ e ho =>
    have hhanded := (Spares.entered e s).trans
      (keeps_spares_hand hreact ((s.entered e).value e.topic) s.listeners.length _)
    refine ⟨hhanded.length, fun hn => ?_, hhanded.waits, hhanded.stands⟩
    rw [named?_name] at hn
    split at hn
    · exact .inr (le_of_eq (Option.some.inj hn))
    · exact hhanded.names hn

end

/-! ## The holder of an inbox -/

/-- **A private inbox**: nobody has a name for it, and of its waits only the current one may still
become over, which it does with a value as long as the inbox is open. -/
structure Private (s : Switchboard) (l : ListenerId) (current : Option WaitId) (closed : Bool) :
    Prop where
  stands : s.Stands l closed
  unnamed : ∀ id, s.named? .observation id ≠ some l
  live : ∀ {w : WaitId} {state}, s.waits[w]? = some ⟨l, state⟩ → state.isLive → current = some w
  current : ∀ {w : WaitId}, current = some w →
    ∃ state, s.waits[w]? = some ⟨l, state⟩ ∧ state ≠ .abandoned ∧
      (closed = false → state ≠ .over none)

/-- The value that the current wait is over with, until its holder has heeded it. -/
def held (s : Switchboard) (current : Option WaitId) : List Bool :=
  (current.bind fun w => (s.waits[w]?).bind Wait.value?).toList

/-- **A move leaves an inbox to its holder.** -/
def Move.Leaves (l : ListenerId) (current : Option WaitId) : Move → Prop
  | .wait i => i ≠ l
  | .shut i => i ≠ l
  | .abandon w => current ≠ some w
  | _ => True

theorem getElem?_setWait (w w' : WaitId) (state : WaitState) (s : Switchboard) :
    (s.setWait w state).waits[w']?
      = if w = w' then (s.waits[w']?).map fun wait => { wait with state } else s.waits[w']? := by
  rw [setWait, List.getElem?_modify]
  by_cases he : w = w' <;> simp [he]

/-- What is held does not depend on other waits. -/
theorem held_of_ne {state : WaitState} (hw : s'.waits = (s.setWait w state).waits)
    (hc : current ≠ some w) : held s' current = held s current := by
  cases current with
  | none => rfl
  | some w' =>
    have hne : w ≠ w' := fun he => hc (he ▸ rfl)
    rw [held, held, Option.bind_some, Option.bind_some, hw, getElem?_setWait, if_neg hne]

namespace Private

theorem lt_length (h : s.Private l current closed) : l < s.listeners.length := by
  obtain ⟨topic, unread, hx⟩ := h.stands
  exact (List.getElem?_eq_some_iff.1 hx).1

/-- **An inbox that is spared stays private.** -/
theorem spared (h : s.Private l current closed) (hs : Spares l s s') :
    s'.Private l current closed ∧ held s' current = held s current := by
  refine ⟨⟨hs.stands h.stands, fun id hn => ?_, fun {w state} hw hlive => ?_,
    fun {w} hc => ?_⟩, ?_⟩
  · rcases hs.names hn with hn | hi
    · exact h.unnamed id hn
    · exact absurd h.lt_length (Nat.not_lt.2 hi)
  · rcases hs.waits w with he | ⟨i, hp, hd⟩
    · exact h.live (he.symm.trans hw) hlive
    · obtain ⟨rfl, -⟩ := Wait.mk.inj (Option.some.inj (hd.symm.trans hw))
      exact h.live hp rfl
  · obtain ⟨state, hw, ha⟩ := h.current hc
    rcases hs.waits w with he | ⟨i, hp, hd⟩
    · exact ⟨state, he.trans hw, ha⟩
    · obtain ⟨rfl, -⟩ := Wait.mk.inj (Option.some.inj (hp.symm.trans hw))
      exact ⟨.due, hd, nofun, nofun⟩
  · cases current with
    | none => rfl
    | some w =>
      rw [held, held, Option.bind_some, Option.bind_some]
      rcases hs.waits w with he | ⟨i, hp, hd⟩
      · rw [he]
      · rw [hp, hd]
        rfl

/-- **A wait changes** while the inbox stands as it stood. -/
theorem changed (h : s.Private l current closed) {state : WaitState}
    (hstands : s'.Stands l closed) (hd : s'.directory = s.directory)
    (hw : s'.waits = (s.setWait w state).waits)
    (hlive : state.isLive → ∀ {x}, s.waits[w]? = some ⟨l, x⟩ → current = some w)
    (hcurrent : current = some w → state ≠ .abandoned ∧ (closed = false → state ≠ .over none)) :
    s'.Private l current closed := by
  refine ⟨hstands, fun id => ?_, fun {w' x} hx hl => ?_, fun {w'} hc => ?_⟩
  · rw [named?, hd]
    exact h.unnamed id
  · rw [hw, getElem?_setWait] at hx
    by_cases he : w = w'
    · subst he
      rw [if_pos rfl] at hx
      obtain ⟨⟨j, y⟩, hy, hj⟩ := Option.map_eq_some_iff.1 hx
      obtain ⟨rfl, rfl⟩ := Wait.mk.inj hj
      exact hlive hl hy
    · rw [if_neg he] at hx
      exact h.live hx hl
  · obtain ⟨x, hx, ha⟩ := h.current hc
    rw [hw, getElem?_setWait]
    by_cases he : w = w'
    · subst he
      rw [if_pos rfl, hx]
      exact ⟨state, rfl, hcurrent hc⟩
    · rw [if_neg he]
      exact ⟨x, hx, ha⟩

end Private

/-- The turn of a wait does not depend on the jobs behind it. -/
theorem proceed_queue (w : WaitId) (queue : List Job) (s : Switchboard) :
    ({ s with queue } : Switchboard).proceed w = { s.proceed w with queue } := by
  unfold proceed
  dsimp only
  split
  · dsimp only [listener?]
    split
    · rfl
    · split
      · rfl
      · split <;> rfl
  · rfl

theorem valuesOf_waitReadings (l : ListenerId) (w : WaitId) (s : Switchboard) :
    valuesOf l (s.waitReadings w) = (s.due? w).toList.filterMap fun i =>
      if i = l then ((s.proceed w).waits[w]?).bind Wait.value? else none := by
  rw [valuesOf, waitReadings, List.filterMap_map]
  rfl

theorem stands_proceed (h : s.Stands l closed) (w : WaitId) : (s.proceed w).Stands l closed := by
  have hp := proceeded w s
  generalize s.proceed w = s' at hp
  cases hp with
  | idle | ended | parked => exact h
  | @read i =>
    obtain ⟨topic, unread, hx⟩ := h
    change ∃ topic unread, (s.modifyListener i (·.take)).listener? l = _
    rw [listener?_modifyListener, hx]
    split
    · exact ⟨topic, none, rfl⟩
    · exact ⟨topic, unread, rfl⟩

theorem proceed_of_not_due (h : s.due? w = none) : s.proceed w = s := by
  have hp := proceeded w s
  generalize s.proceed w = s' at hp
  cases hp with
  | idle => rfl
  | ended hw | parked hw | read hw => exact nomatch h.symm.trans (due?_eq_some.2 hw)

/-- A wait that has its turn changes, unless there is nobody to wait for. -/
theorem waits_proceed (hw : s.due? w = some i) :
    s.listener? i = none ∧ s.proceed w = s ∨
      ∃ state, state ≠ .abandoned ∧ (s.isShut i = false → state ≠ .over none) ∧
        (s.proceed w).waits = (s.setWait w state).waits := by
  have hdue := due?_eq_some.1 hw
  have hp := proceeded w s
  generalize s.proceed w = s' at hp
  cases hp with
  | idle h => exact .inl ⟨h i hdue, rfl⟩
  | ended hw' hx hc =>
    refine .inr ⟨.over none, by rintro ⟨⟩, fun hopen => ?_, rfl⟩
    cases hdue.symm.trans hw'
    rw [isShut, hx, Option.any_some, hc] at hopen
    cases hopen
  | parked => exact .inr ⟨.parked, by rintro ⟨⟩, fun _ => by rintro ⟨⟩, rfl⟩
  | read => exact .inr ⟨.over (some _), by rintro ⟨⟩, fun _ => by rintro ⟨⟩, rfl⟩

namespace Private

/-- **A wait has its turn**: what the current one reads is held. -/
theorem proceed (h : s.Private l current closed) (w : WaitId) :
    (s.proceed w).Private l current closed ∧
      held (s.proceed w) current = held s current ++ valuesOf l (s.waitReadings w) := by
  cases hd : s.due? w with
  | none =>
    rw [proceed_of_not_due hd, waitReadings, hd]
    exact ⟨h, (List.append_nil _).symm⟩
  | some i =>
    have hdue := due?_eq_some.1 hd
    have hprivate : (s.proceed w).Private l current closed := by
      rcases waits_proceed hd with ⟨-, he⟩ | ⟨state, ha, hopen, hwaits⟩
      · rwa [he]
      · refine h.changed (stands_proceed h.stands w) (Alike.proceed w s).directory hwaits
          (fun _ x hx => ?_) fun hc => ⟨ha, ?_⟩
        · obtain ⟨rfl, -⟩ := Wait.mk.inj (Option.some.inj (hdue.symm.trans hx))
          exact h.live hdue rfl
        · obtain ⟨x, hx, -⟩ := h.current hc
          obtain ⟨rfl, -⟩ := Wait.mk.inj (Option.some.inj (hdue.symm.trans hx))
          exact fun hclosed => hopen (h.stands.isShut_eq.trans hclosed)
    refine ⟨hprivate, ?_⟩
    rw [waitReadings, hd]
    by_cases hi : i = l
    · subst hi
      obtain rfl := h.live hdue rfl
      rw [held, held, Option.bind_some, Option.bind_some, hdue]
      simp only [Option.toList_some, List.map_cons, List.map_nil, valuesOf, List.filterMap_cons,
        List.filterMap_nil, if_true]
      cases ((s.proceed w).waits[w]?).bind Wait.value? <;> rfl
    · have hother : current ≠ some w := by
        rintro rfl
        obtain ⟨state, hw, -⟩ := h.current rfl
        exact hi (Wait.mk.inj (Option.some.inj (hdue.symm.trans hw))).1
      rw [valuesOf_of_ne (by simpa using hi), List.append_nil]
      rcases waits_proceed hd with ⟨-, he⟩ | ⟨state, -, -, hwaits⟩
      · rw [he]
      · exact held_of_ne hwaits hother

/-- Somebody begins to wait elsewhere. -/
theorem wait (h : s.Private l current closed) (hi : i ≠ l) :
    (s.startWait i).Private l current closed ∧
      held (s.startWait i) current = held s current ++ [] := by
  have hwaits {w : WaitId} (hw : w < s.waits.length) :
      (s.startWait i).waits[w]? = s.waits[w]? := List.getElem?_append_left hw
  refine ⟨⟨h.stands, h.unnamed, fun {w state} hw hlive => ?_, fun {w} hc => ?_⟩, ?_⟩
  · by_cases hlt : w < s.waits.length
    · exact h.live ((hwaits hlt).symm.trans hw) hlive
    · rw [startWait, List.getElem?_append_right (Nat.not_lt.1 hlt),
        List.getElem?_singleton] at hw
      split at hw
      · exact absurd (Wait.mk.inj (Option.some.inj hw)).1 hi
      · cases hw
  · obtain ⟨state, hw, ha⟩ := h.current hc
    exact ⟨state, (hwaits (List.getElem?_eq_some_iff.1 hw).1).trans hw, ha⟩
  · rw [List.append_nil]
    cases hc : current with
    | none => rfl
    | some w =>
      obtain ⟨state, hw, -⟩ := h.current hc
      rw [held, held, Option.bind_some, Option.bind_some,
        hwaits (List.getElem?_eq_some_iff.1 hw).1]

/-- **The event loop takes a turn.** -/
theorem turn (h : s.Private l current closed) :
    s.turn.Private l current closed ∧
      held s.turn current = held s current ++ valuesOf l (Move.readings s .turn) := by
  rw [Move.readings, Switchboard.turn]
  split
  · rename_i hq
    rw [hq]
    exact ⟨h, (List.append_nil _).symm⟩
  · rename_i i value queue hq
    rw [hq]
    obtain ⟨hprivate, hheld⟩ := h.spared (.turned i value queue s)
    exact ⟨hprivate, hheld.trans (List.append_nil _).symm⟩
  · rename_i w queue hq
    rw [hq]
    have hpop : Spares l s { s with queue } := .aside rfl rfl rfl
    obtain ⟨hpopped, hheld⟩ := h.spared hpop
    obtain ⟨hprivate, hread⟩ := hpopped.proceed w
    refine ⟨hprivate, hread.trans ?_⟩
    rw [hheld, valuesOf_waitReadings, valuesOf_waitReadings, proceed_queue]
    rfl

/-- **Whatever move is made**, an inbox that is left to its holder stays private, and what is read
from it is held. -/
theorem move (h : s.Private l current closed) (hm : m.Fair s) (hl : m.Leaves l current) :
    (m.after s).Private l current closed ∧
      held (m.after s) current = held s current ++ valuesOf l (m.readings s) := by
  cases m with
  | operate react o =>
    have hspares := (execute_transition react hm.2.1 s).spares hm.1.spares h.unnamed
    have hread : valuesOf l (Move.readings s (.operate react o)) = [] := by
      refine valuesOf_of_ne fun r hr => ?_
      obtain ⟨i, hi, rfl⟩ := List.mem_map.1 hr
      rintro rfl
      rw [Option.mem_toList] at hi
      cases o with
      | poll id | next id => exact h.unnamed id hi
      | _ => cases hi
    rw [hread, List.append_nil]
    exact h.spared hspares
  | turn => exact h.turn
  | hasten w => exact h.proceed w
  | wait i => exact h.wait hl
  | abandon w =>
    refine ⟨h.changed h.stands rfl rfl nofun fun hc => absurd hc hl, ?_⟩
    exact (held_of_ne rfl hl).trans (List.append_nil _).symm
  | shut i =>
    obtain ⟨hprivate, hheld⟩ := h.spared (.shut fun _ => Ne.symm hl)
    exact ⟨hprivate, hheld.trans (List.append_nil _).symm⟩
  | place | record =>
    refine And.imp_right (fun hheld => hheld.trans (List.append_nil _).symm) (h.spared ?_)
    exact .aside rfl rfl rfl

/-! ### What the holder does -/

/-- **Its holder begins to wait.** -/
theorem begin (h : s.Private l none closed) :
    (s.startWait l).Private l (some s.waits.length) closed ∧
      held (s.startWait l) (some s.waits.length) = [] := by
  have hnew : (s.startWait l).waits[s.waits.length]? = some ⟨l, .due⟩ :=
    List.getElem?_concat_length
  refine ⟨⟨h.stands, h.unnamed, fun {w state} hw hlive => ?_, fun {w} hc => ?_⟩, ?_⟩
  · by_cases hlt : w < s.waits.length
    · rw [startWait, List.getElem?_append_left hlt] at hw
      cases h.live hw hlive
    · obtain ⟨hle, -⟩ := List.getElem?_eq_some_iff.1 hw
      rw [startWait, List.length_append] at hle
      exact congrArg some (Nat.le_antisymm (Nat.not_lt.1 hlt) (Nat.lt_succ_iff.1 hle))
  · obtain rfl := Option.some.inj hc
    exact ⟨.due, hnew, by decide, fun _ => by decide⟩
  · rw [held, Option.bind_some, hnew]
    rfl

/-- **Its holder heeds a wait that is over.** -/
theorem heed (h : s.Private l (some w) closed) {read : Option Bool}
    (hw : s.waits[w]? = some ⟨i, .over read⟩) : s.Private l none closed := by
  refine ⟨h.stands, h.unnamed, fun {w' state} hx hlive => ?_, nofun⟩
  obtain rfl := Option.some.inj (h.live hx hlive)
  obtain ⟨-, rfl⟩ := Wait.mk.inj (Option.some.inj (hw.symm.trans hx))
  cases hlive

/-- **Its holder gives up a wait.** -/
theorem giveUp (h : s.Private l (some w) closed) :
    (s.setWait w .abandoned).Private l none closed := by
  refine ⟨h.stands, h.unnamed, fun {w' state} hx hlive => ?_, nofun⟩
  rw [getElem?_setWait] at hx
  split at hx
  · obtain ⟨x, -, hx⟩ := Option.map_eq_some_iff.1 hx
    obtain ⟨-, rfl⟩ := Wait.mk.inj hx
    cases hlive
  · rename_i hne
    exact absurd (Option.some.inj (h.live hx hlive)) hne

/-- **Its holder closes it.** -/
theorem shut (h : s.Private l none false) :
    (after (Switchboard.shut l) s).Private l none true := by
  obtain ⟨topic, unread, hx⟩ := h.stands
  rw [after, run_shut, hx]
  have hclose : (s.modifyListener l (·.close)).Private l none true := by
    refine ⟨⟨topic, unread, ?_⟩, h.unnamed, h.live, fun hc => by cases hc⟩
    rw [listener?_modifyListener, if_pos rfl, hx]
    rfl
  have hwake : Spares l (s.modifyListener l (·.close))
      (((s.modifyListener l (·.close)).wake l).detach topic l) :=
    (Spares.wake l _).trans (.aside rfl rfl rfl)
  exact (hclose.spared hwake).1

end Private

/-! ## Where waits are -/

/-- **Waits are at listeners** that are there. -/
def Placed (s : Switchboard) : Prop :=
  ∀ (w : WaitId) i state, s.waits[w]? = some (Wait.mk i state) → i < s.listeners.length

/-- No identifier stands for a listener that is not there yet. -/
theorem Orderly.unnamed_length (hs : Orderly s) (id : Text) :
    s.named? .observation id ≠ some s.listeners.length := by
  intro hn
  obtain ⟨x, hx, -⟩ := hs.observation hn
  exact nomatch (kind?_length s).symm.trans hx

theorem not_stands_length (s : Switchboard) (closed : Bool) :
    ¬ s.Stands s.listeners.length closed := by
  rintro ⟨topic, unread, hx⟩
  exact absurd (List.getElem?_eq_some_iff.1 hx).1 (Nat.lt_irrefl _)

namespace Placed

theorem spared (h : Placed s) (hs : Spares l s s') : Placed s' := by
  intro w i state hw
  rcases hs.waits w with he | ⟨j, hp, hd⟩
  · exact (h w i state (he.symm.trans hw)).trans_le hs.length
  · obtain ⟨rfl, -⟩ := Wait.mk.inj (Option.some.inj (hd.symm.trans hw))
    exact (h w j .parked hp).trans_le hs.length

theorem setWait (h : Placed s) {state : WaitState} (hw : s'.waits = (s.setWait w state).waits)
    (hl : s'.listeners.length = s.listeners.length) : Placed s' := by
  intro w' i x hx
  rw [hw, getElem?_setWait] at hx
  rw [hl]
  split at hx
  · obtain ⟨⟨j, y⟩, hy, hj⟩ := Option.map_eq_some_iff.1 hx
    obtain ⟨rfl, -⟩ := Wait.mk.inj hj
    exact h _ _ _ hy
  · exact h _ _ _ hx

theorem proceed (h : Placed s) (w : WaitId) : Placed (s.proceed w) := by
  have hlength : (s.proceed w).listeners.length = s.listeners.length := by
    have hkinds := congrArg List.length (Alike.proceed w s).kinds
    rwa [List.length_map, List.length_map] at hkinds
  cases hd : s.due? w with
  | none => rwa [proceed_of_not_due hd]
  | some i =>
    rcases waits_proceed hd with ⟨-, he⟩ | ⟨state, -, -, hwaits⟩
    · rwa [he]
    · exact h.setWait hwaits hlength

theorem move (h : Placed s) (hs : Orderly s) (hm : m.Fair s) : Placed (m.after s) := by
  cases m with
  | operate react o =>
    exact h.spared ((execute_transition react hm.2.1 s).spares hm.1.spares hs.unnamed_length)
  | turn =>
    rw [Move.after, Switchboard.turn]
    split
    · exact h
    · rename_i i value queue hq
      exact h.spared (.turned (l := i) i value queue s)
    · rename_i w queue hq
      have hpop : Placed { s with queue } := h
      exact hpop.proceed w
  | hasten w => exact h.proceed w
  | wait i =>
    intro w j state hw
    rw [Move.after, startWait, List.getElem?_append] at hw
    split at hw
    · exact h w j state hw
    · rw [List.getElem?_singleton] at hw
      split at hw
      · obtain ⟨rfl, -⟩ := Wait.mk.inj (Option.some.inj hw)
        exact hm
      · cases hw
  | abandon w => exact h.setWait rfl rfl
  | shut i => exact h.spared (.shut fun hl => absurd hl (not_stands_length s _))
  | place | record => exact h

theorem play {ms : List Move} (h : Placed s) (hs : Orderly s) (hms : Fair ms s) :
    Placed (play ms s) := by
  induction ms generalizing s with
  | nil => exact h
  | cons m ms ih => exact ih (h.move hs hms.1) (kept_plain.move hms.1.mild hs).1 hms.2

end Placed

end Switchboard

end FeatureFlags

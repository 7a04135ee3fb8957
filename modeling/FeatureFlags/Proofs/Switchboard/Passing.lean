import FeatureFlags.Proofs.Switchboard.Moves
import FeatureFlags.Proofs.Switchboard.Tracking

/-!
# Proofs/Switchboard/Passing — readings, and what passes through a slot

A move reads the unread value of a slot, or it makes steps of it.  So each reading finds the latest
of the values that have arrived behind those that were read before (`FindsLatest`), and what is read
in the course of some moves is taken from what has arrived, in its order (`Passes`, `passes_play`).
-/

namespace FeatureFlags

namespace Switchboard

variable {react : React} {s s' s'' : Switchboard} {l i : ListenerId} {slot : Slot} {o : Operation}
  {value : Bool} {m : Move}

/-! ## Turns of the event loop -/

theorem listener?_arrive (i l : ListenerId) (value : Bool) (s : Switchboard) :
    (s.arrive i value).listener? l
      = if l = i then (s.listener? l).map (·.store value) else s.listener? l := by
  unfold arrive
  split
  · rename_i hx
    by_cases hi : l = i
    · rw [if_pos hi, hi, hx]
      rfl
    · rw [if_neg hi]
  · rename_i x hx
    split
    · rename_i hc
      by_cases hi : l = i
      · rw [if_pos hi, hi, hx, Option.map_some, Listener.store_of_closed hc]
      · rw [if_neg hi]
    · exact listener?_modifyListener i l (·.store value) s

theorem coming_arrive (i l : ListenerId) (value : Bool) (s : Switchboard) :
    (s.arrive i value).coming l = s.coming l := by
  rcases arrive_cases i value s with h | h
  · rw [h]
  · rw [h]
    exact coming_wake i l _

theorem coming_of_queue {queue : List Job} (hq : s.queue = .arrival i value :: queue) :
    s.coming l = (if i = l then [value] else []) ++ ({ s with queue } : Switchboard).coming l := by
  rw [coming, hq, List.filterMap_cons, Job.valueFor, coming]
  by_cases hi : i = l
  · simp [hi]
  · simp [hi]

/-- **A value arrives.** -/
theorem tracks_arrive {queue : List Job} (hq : s.queue = .arrival i value :: queue) :
    Tracks l s (({ s with queue } : Switchboard).arrive i value) := by
  have hhistory : (({ s with queue } : Switchboard).arrive i value).history = s.history :=
    (Alike.arrive i value { s with queue }).history
  have hcoming := coming_of_queue (l := l) hq
  by_cases hi : i = l
  · subst hi
    rw [if_pos rfl] at hcoming
    intro slot h
    obtain ⟨x, arrived, comings⟩ := slot
    obtain ⟨hl, hr, hc, hrec, hd⟩ := h
    dsimp only at hl hr hc hrec hd
    obtain rfl : value :: ({ s with queue } : Switchboard).coming i = comings :=
      hcoming.symm.trans hc
    have hstep : Slot.Step ⟨x, arrived, value :: ({ s with queue } : Switchboard).coming i⟩
        ⟨x.store value, arrived ++ [value], ({ s with queue } : Switchboard).coming i⟩ :=
      .arrives value
    refine ⟨_, ⟨?_, hstep.isReached hr, coming_arrive i i value _, ?_, fun h => ?_⟩,
      .single hstep⟩
    · rw [listener?_arrive, if_pos rfl]
      exact congrArg (Option.map _) hl
    · rw [hhistory, hrec, List.append_assoc]
      rfl
    · rw [Listener.isReader_store] at h
      exact nomatch hd h
  · rw [if_neg hi, List.nil_append] at hcoming
    refine .aside ?_ ((coming_arrive i l value _).trans hcoming.symm) (by rw [hhistory])
    rw [listener?_arrive, if_neg (Ne.symm hi)]
    rfl

theorem due?_eq_some {w : WaitId} : s.due? w = some i ↔ s.waits[w]? = some ⟨i, .due⟩ := by
  unfold due?
  split
  · rename_i j hw
    rw [hw]
    simp
  · rename_i hw
    exact iff_of_false nofun (hw i)

/-- **A wait has its turn** at somebody else. -/
theorem tracks_proceed {w : WaitId} (hr : s.due? w ≠ some l) : Tracks l s (s.proceed w) := by
  have h := proceeded w s
  generalize s.proceed w = s' at h
  cases h with
  | idle => exact Std.Refl.refl s
  | ended | parked => exact .aside rfl rfl rfl
  | @read i _ _ hw =>
    have hi : l ≠ i := fun hi => hr (due?_eq_some.2 (hi ▸ hw))
    exact (Tracks.modifyListener hi _ s).trans (.aside rfl rfl rfl)

theorem mem_waitReadings {w : WaitId} (h : s.due? w = some i) :
    ∃ r ∈ s.waitReadings w, r.listener = i := by
  rw [waitReadings, h]
  exact ⟨_, List.mem_cons_self, rfl⟩

theorem coming_pop {w : WaitId} {queue : List Job} (hq : s.queue = .resume w :: queue) :
    ({ s with queue } : Switchboard).coming l = s.coming l := by
  rw [coming, coming, hq]
  rfl

/-- **A turn of the event loop** makes steps of a slot, unless it is read from. -/
theorem tracks_turn (hr : ∀ r ∈ Move.readings s .turn, r.listener ≠ l) : Tracks l s s.turn := by
  rw [Move.readings] at hr
  unfold turn
  split
  · exact Std.Refl.refl s
  · exact tracks_arrive ‹_›
  · rename_i w queue hq
    rw [hq] at hr
    have hpop : Tracks l s { s with queue } := .aside rfl (coming_pop hq) rfl
    refine hpop.trans (tracks_proceed fun h => ?_)
    obtain ⟨r, hm, hl⟩ := mem_waitReadings (s := s) h
    exact hr r hm hl

/-- **A move that does not read from a slot** makes steps of it. -/
theorem Move.Mild.tracks (hm : m.Mild s) (hr : ∀ r ∈ m.readings s, r.listener ≠ l) :
    Tracks l s (m.after s) := by
  cases m with
  | operate react o =>
    refine (execute_transition react hm.2.1 s).tracks hm.1.tracks fun h => ?_
    rw [Move.readings, h] at hr
    exact hr _ List.mem_cons_self rfl
  | turn => exact tracks_turn hr
  | hasten w =>
    refine tracks_proceed fun h => ?_
    obtain ⟨r, hm, hl⟩ := mem_waitReadings h
    exact hr r hm hl
  | wait i => exact .aside rfl (coming_startWait i l s) rfl
  | abandon w => exact .aside rfl rfl rfl
  | shut i =>
    rw [Move.after]
    rcases after_shut_cases i s with h | ⟨x, -, -, h⟩
    · rw [h]
      exact Std.Refl.refl s
    · rw [h]
      exact .closing i x s
  | place | record => exact .aside rfl rfl rfl

/-- What is on its way stays backed whatever moves are made. -/
theorem Move.Mild.backs (hm : m.Mild s) : Backs s (m.after s) := by
  cases m with
  | operate react o => exact (execute_transition react hm.2.1 s).backs hm.1.backs
  | turn =>
    rw [Move.after, Switchboard.turn]
    split
    · exact Std.Refl.refl s
    · rename_i i value queue hq
      refine .of_grows (fun l => ?_) fun l => ?_
      · rw [coming_arrive, coming_of_queue (l := l) hq]
        exact List.sublist_append_right _ _
      · rw [(Alike.arrive i value { s with queue }).history]
    · rename_i w queue hq
      refine .of_eq (fun l => ?_) fun l => ?_
      · rw [coming_proceed, coming_pop hq]
      · rw [(Alike.proceed w { s with queue }).history]
  | hasten w =>
    refine .of_eq (fun l => coming_proceed w l s) fun l => ?_
    rw [Move.after, (Alike.proceed w s).history]
  | wait i => exact .of_eq (fun l => coming_startWait i l s) fun _ => rfl
  | abandon w => exact .aside rfl rfl
  | shut i =>
    rw [Move.after]
    rcases after_shut_cases i s with h | ⟨x, -, -, h⟩
    · rw [h]
      exact Std.Refl.refl s
    · rw [h]
      exact .closing i x s
  | place | record => exact .aside rfl rfl

/-! ## Reading -/

/-- **What a slot is once it was read from.** -/
theorem Shows.taken (h : s.Shows l slot)
    (hl : s'.listener? l
      = some (if slot.listener.closed then slot.listener else slot.listener.take))
    (hc : s'.coming l = s.coming l) (hh : s'.history = s.history) : s'.Shows l slot.taken := by
  refine ⟨hl, slot.isReached_taken.trans h.reached, hc.trans h.coming, ?_, fun hr => h.direct ?_⟩
  · rw [hh, h.received]
    rfl
  · rwa [slot.isReader_taken] at hr

/-- A wait that is due has its turn. -/
theorem proceed_of_due {w : WaitId} {x : Listener} (hw : s.due? w = some l)
    (hx : s.listener? l = some x) :
    (s.proceed w).listener? l = some (if x.closed then x else x.take) ∧
      (s.proceed w).coming l = s.coming l ∧ (s.proceed w).history = s.history ∧
      ((s.proceed w).waits[w]?).bind Wait.value? = if x.closed then none else x.unread := by
  have hdue := due?_eq_some.1 hw
  have hset (state : WaitState) {s' : Switchboard} (h : s'.waits = s.waits) :
      (s'.setWait w state).waits[w]? = some ⟨l, state⟩ := by
    rw [setWait, List.getElem?_modify, h, hdue]
    simp
  unfold proceed
  rw [hdue]
  dsimp only
  rw [hx]
  dsimp only
  cases hc : x.closed with
  | true =>
    refine ⟨?_, rfl, rfl, ?_⟩
    · exact hx
    · rw [if_pos rfl, hset _ rfl]
      rfl
  | false =>
    cases hu : x.unread with
    | none =>
      refine ⟨?_, rfl, rfl, ?_⟩
      · rw [if_neg Bool.false_ne_true, Listener.take_of_unread hu]
        exact hx
      · rw [if_neg Bool.false_ne_true]
        exact congrArg (Option.bind · Wait.value?) (hset _ rfl)
    | some value =>
      refine ⟨?_, rfl, rfl, ?_⟩
      · change (s.modifyListener l (·.take)).listener? l = _
        rw [listener?_modifyListener, if_pos rfl, hx]
        rfl
      · rw [if_neg Bool.false_ne_true]
        exact congrArg (Option.bind · Wait.value?) (hset _ rfl)

/-- The answer of an operation that reads is what was unread. -/
theorem execute_reads {x : Listener} (hr : s.reads? o = some l) (hx : s.listener? l = some x)
    (hpoll : ∀ id, o = .poll id → s.IsReader l) (he : x.isReader → x.closed → x.unread = none) :
    (after (execute react o) s).listener? l = some (if x.closed then x else x.take) ∧
      (after (execute react o) s).coming l = s.coming l ∧
      (after (execute react o) s).history = s.history ∧
      (outcome (execute react o) s).toOption.bind Answer.value?
        = if x.closed then none else x.unread := by
  have htake : (s.modifyListener l (·.take)).listener? l = some x.take := by
    rw [listener?_modifyListener, if_pos rfl, hx]
    rfl
  cases o with
  | poll id =>
    have hrun : (execute react (.poll id)).run s
        = (.ok (.ofOption .truth x.unread), s.modifyListener l (·.take)) := by
      rw [execute, run_withNamed, show s.named? .observation id = some l from hr]
      dsimp only
      rw [run_bind, run_takeUnread, hx]
      rfl
    obtain ⟨topic, unread, closed, hreader⟩ := hpoll id rfl
    obtain rfl := Option.some.inj (hx.symm.trans hreader)
    rw [after, outcome, hrun]
    cases closed with
    | true =>
      obtain rfl : unread = none := he rfl rfl
      exact ⟨htake, rfl, rfl, rfl⟩
    | false => cases unread <;> exact ⟨htake, rfl, rfl, rfl⟩
  | next id =>
    have hrun : (execute react (.next id)).run s = (next l).run s := by
      rw [execute, run_withNamed, show s.named? .observation id = some l from hr]
    rw [after, outcome, hrun, run_next, hx]
    dsimp only
    cases hc : x.closed with
    | true => exact ⟨hx, rfl, rfl, rfl⟩
    | false =>
      refine ⟨htake, rfl, rfl, ?_⟩
      cases x.unread <;> rfl
  | _ => cases hr

/-- A wait that is due reads the unread value. -/
theorem waitReadings_of_due {w : WaitId} {r : Reading} (h : s.Shows r.listener slot)
    (hr : r ∈ s.waitReadings w) :
    s.due? w = some r.listener ∧ s.waitReadings w = [r] ∧ r.found = s ∧
      r.value = if slot.listener.closed then none else slot.listener.unread := by
  rw [waitReadings] at hr ⊢
  cases hd : s.due? w with
  | none =>
    rw [hd] at hr
    cases hr
  | some i =>
    rw [hd] at hr
    obtain rfl := List.mem_singleton.1 hr
    exact ⟨rfl, rfl, rfl, (proceed_of_due hd h.listener).2.2.2⟩

/-- **A move that reads from a slot** reads the unread value. -/
theorem Move.Mild.reads {k : Nat} {r : Reading} (hm : m.Mild s) (h : s.Shows r.listener slot)
    (hl : slot.Latest k) (hr : r ∈ m.readings s) :
    m.readings s = [r] ∧ r.found = s ∧
      r.value = (if slot.listener.closed then none else slot.listener.unread) ∧
      (m.after s).Shows r.listener slot.taken := by
  cases m with
  | operate react o =>
    rw [Move.readings] at hr ⊢
    cases ho : s.reads? o with
    | none =>
      rw [ho] at hr
      cases hr
    | some i =>
      rw [ho] at hr
      obtain rfl := List.mem_singleton.1 hr
      have hpoll : ∀ id, o = .poll id → s.IsReader i := by
        rintro id rfl
        exact hm.2.2 id i rfl ho
      obtain ⟨hx, hc, hh, hv⟩ := @execute_reads react _ _ _ _ ho h.listener hpoll hl.emptied
      exact ⟨rfl, rfl, hv, h.taken hx hc hh⟩
  | turn =>
    rw [Move.readings] at hr ⊢
    rw [Move.after, Switchboard.turn]
    split at hr
    · rename_i w queue hq
      obtain ⟨hd, hreadings, hfound, hv⟩ := waitReadings_of_due h hr
      obtain ⟨hx, hc, hh, -⟩ := proceed_of_due (s := { s with queue }) hd h.listener
      rw [hq]
      exact ⟨hreadings, hfound, hv, h.taken hx (hc.trans (coming_pop hq)) hh⟩
    · cases hr
  | hasten w =>
    obtain ⟨hd, hreadings, hfound, hv⟩ := waitReadings_of_due h hr
    obtain ⟨hx, hc, hh, -⟩ := proceed_of_due hd h.listener
    exact ⟨hreadings, hfound, hv, h.taken hx hc hh⟩
  | _ => cases hr

/-! ## One move -/

/-- A listener is closed. -/
def isShut (s : Switchboard) (l : ListenerId) : Bool := (s.listener? l).any Listener.closed

theorem Shows.isShut_eq (h : s.Shows l slot) : s.isShut l = slot.listener.closed := by
  rw [isShut, h.listener, Option.any_some]

/-- How many values are behind after a reading: if it has found one, all that had arrived. -/
def behind (l : ListenerId) (k : Nat) (r : Reading) : Nat :=
  if r.listener = l ∧ r.value.isSome then (r.found.arrived l).length else k

/-- The values that were read from a listener. -/
def valuesOf (l : ListenerId) (rs : List Reading) : List Bool :=
  rs.filterMap fun r => if r.listener = l then r.value else none

/-- **Each reading finds the latest value** of those that have arrived behind the ones before it,
and nothing if the listener is closed. -/
def FindsLatest (l : ListenerId) : Nat → List Reading → Prop
  | _, [] => True
  | k, r :: rs =>
    (r.listener = l →
      r.value = if r.found.isShut l then none else ((r.found.arrived l).drop k).getLast?) ∧
      FindsLatest l (behind l k r) rs

/-- **What becomes of a slot while readings are made.** -/
structure Passes (l : ListenerId) (k : Nat) (slot : Slot) (rs : List Reading) (slot' : Slot) :
    Prop where
  latest : slot'.Latest (rs.foldl (behind l) k)
  grows : slot.arrived <+: slot'.arrived
  closed : slot.listener.closed = true → slot'.listener.closed = true
  finds : FindsLatest l k rs
  mono : k ≤ rs.foldl (behind l) k
  values : (valuesOf l rs).Sublist ((slot'.arrived.take (rs.foldl (behind l) k)).drop k)
  last : (valuesOf l rs).getLast?.or (slot.arrived.take k).getLast?
    = (slot'.arrived.take (rs.foldl (behind l) k)).getLast?

theorem valuesOf_append (l : ListenerId) (rs rs' : List Reading) :
    valuesOf l (rs ++ rs') = valuesOf l rs ++ valuesOf l rs' := List.filterMap_append

theorem valuesOf_of_ne {rs : List Reading} (h : ∀ r ∈ rs, r.listener ≠ l) : valuesOf l rs = [] :=
  List.filterMap_eq_nil_iff.2 fun r hr => if_neg (h r hr)

theorem foldl_behind_of_ne {k : Nat} {rs : List Reading} (h : ∀ r ∈ rs, r.listener ≠ l) :
    rs.foldl (behind l) k = k := by
  induction rs with
  | nil => rfl
  | cons r rs ih =>
    obtain ⟨hr, hrs⟩ := List.forall_mem_cons.1 h
    rw [List.foldl_cons, behind, if_neg fun hb => hr hb.1, ih hrs]

theorem findsLatest_of_ne {k : Nat} {rs : List Reading} (h : ∀ r ∈ rs, r.listener ≠ l) :
    FindsLatest l k rs := by
  induction rs generalizing k with
  | nil => trivial
  | cons r rs ih =>
    obtain ⟨hr, hrs⟩ := List.forall_mem_cons.1 h
    exact ⟨fun he => absurd he hr, ih hrs⟩

/-- **What becomes of a slot by one reading** from it. -/
theorem Shows.passes_taken {k : Nat} {r : Reading} (h : r.found.Shows r.listener slot)
    (hl : slot.Latest k)
    (hv : r.value = if slot.listener.closed then none else slot.listener.unread) :
    Passes r.listener k slot [r] slot.taken := by
  have hiff : slot.listener.closed = false ∧ slot.listener.unread.isSome ↔ r.value.isSome := by
    rw [hv]
    cases slot.listener.closed <;> simp
  have hbehind : [r].foldl (behind r.listener) k
      = if r.value.isSome then slot.arrived.length else k := by
    rw [List.foldl_cons, List.foldl_nil, behind, h.arrived_eq]
    simp only [true_and]
  have hlast {value : Bool} (hr : r.value = some value) :
      (slot.arrived.drop k).getLast? = some value := by
    obtain ⟨hc, -⟩ := hiff.2 (by rw [hr]; rfl)
    rw [hr, hc] at hv
    exact (hl.unread hc).symm.trans hv.symm
  have hvalues : valuesOf r.listener [r] = r.value.toList := by
    rw [valuesOf, List.filterMap_cons, if_pos rfl]
    cases r.value <;> rfl
  refine ⟨?_, List.prefix_refl _, fun hc => ?_, ⟨fun _ => ?_, trivial⟩, ?_, ?_, ?_⟩
  · have hlatest := hl.taken
    simp only [hiff] at hlatest
    rwa [hbehind]
  · rw [Slot.taken]
    dsimp only
    rwa [if_pos hc]
  · rw [hv, h.isShut_eq, h.arrived_eq]
    cases hc : slot.listener.closed with
    | true => rfl
    | false => exact hl.unread hc
  · rw [hbehind]
    split
    · exact hl.behind
    · exact le_refl k
  · rw [hvalues, hbehind]
    cases hr : r.value with
    | none => exact List.nil_sublist _
    | some value =>
      rw [Option.isSome_some, if_pos rfl]
      change [value].Sublist ((slot.arrived.take slot.arrived.length).drop k)
      rw [List.take_length]
      exact List.singleton_sublist.2 (List.mem_of_getLast? (hlast hr))
  · rw [hvalues, hbehind]
    cases hr : r.value with
    | none => rfl
    | some value =>
      change some value = (slot.arrived.take slot.arrived.length).getLast?
      rw [List.take_length, ← List.take_append_drop k slot.arrived, List.getLast?_append, hlast hr]
      rfl

/-- **What becomes of a slot by steps**, while nothing is read from it. -/
theorem Shows.passes_of_steps {k : Nat} {slot' : Slot} {rs : List Reading} (hs : s.Shows l slot)
    (h : Slot.Steps slot slot') (hl : slot.Latest k) (hne : ∀ r ∈ rs, r.listener ≠ l) :
    Passes l k slot rs slot' := by
  obtain ⟨hlatest, hclosed⟩ := h.latest hs.reached hl
  have hbehind := foldl_behind_of_ne (k := k) hne
  refine ⟨?_, h.arrived_prefix, hclosed, findsLatest_of_ne hne, ?_, ?_, ?_⟩
  · rwa [hbehind]
  · rw [hbehind]
  · rw [valuesOf_of_ne hne]
    exact List.nil_sublist _
  · obtain ⟨more, hmore⟩ := h.arrived_prefix
    rw [valuesOf_of_ne hne, hbehind, ← hmore, List.take_append_of_le_length hl.behind]
    rfl

/-- **What becomes of a slot by one move.** -/
theorem Move.Mild.passes {k : Nat} (hm : m.Mild s) (h : s.Shows l slot) (hl : slot.Latest k) :
    ∃ slot', (m.after s).Shows l slot' ∧ Passes l k slot (m.readings s) slot' := by
  by_cases hr : ∃ r ∈ m.readings s, r.listener = l
  · obtain ⟨r, hr, rfl⟩ := hr
    obtain ⟨hreadings, rfl, hv, hshows⟩ := hm.reads h hl hr
    rw [hreadings]
    exact ⟨_, hshows, h.passes_taken hl hv⟩
  · have hne : ∀ r ∈ m.readings s, r.listener ≠ l := fun r hm he => hr ⟨r, hm, he⟩
    obtain ⟨slot', hshows, hsteps⟩ := hm.tracks hne slot h
    exact ⟨slot', hshows, h.passes_of_steps hsteps hl hne⟩

/-! ## Moves one after the other -/

theorem findsLatest_append {k : Nat} {rs rs' : List Reading} (h : FindsLatest l k rs)
    (h' : FindsLatest l (rs.foldl (behind l) k) rs') : FindsLatest l k (rs ++ rs') := by
  induction rs generalizing k with
  | nil => exact h'
  | cons r rs ih => exact ⟨h.1, ih h.2 h'⟩

namespace Passes

variable {k : Nat} {slot' slot'' : Slot} {rs rs' : List Reading}

theorem refl (h : slot.Latest k) : Passes l k slot [] slot :=
  ⟨h, List.prefix_refl _, id, trivial, le_refl k, List.nil_sublist _, rfl⟩

theorem trans (h : Passes l k slot rs slot')
    (h' : Passes l (rs.foldl (behind l) k) slot' rs' slot'') :
    Passes l k slot (rs ++ rs') slot'' := by
  have hfold : (rs ++ rs').foldl (behind l) k
      = rs'.foldl (behind l) (rs.foldl (behind l) k) := List.foldl_append
  refine ⟨?_, h.grows.trans h'.grows, fun hc => h'.closed (h.closed hc),
    findsLatest_append h.finds h'.finds, ?_, ?_, ?_⟩
  · rw [hfold]
    exact h'.latest
  · rw [hfold]
    exact h.mono.trans h'.mono
  · have hsub := h.values.append h'.values
    have hbehind := h.latest.behind
    have hmono := h.mono
    have hmono' := h'.mono
    rw [valuesOf_append, hfold]
    generalize rs.foldl (behind l) k = k' at *
    generalize rs'.foldl (behind l) k' = k'' at *
    obtain ⟨more, hmore⟩ := h'.grows
    have hsplit : (slot''.arrived.take k'').drop k
        = (slot'.arrived.take k').drop k ++ (slot''.arrived.take k'').drop k' := by
      have hfirst : (slot''.arrived.take k'').take k' = slot'.arrived.take k' := by
        rw [List.take_take, min_eq_left hmono', ← hmore, List.take_append_of_le_length hbehind]
      have hlength : k ≤ (slot'.arrived.take k').length := by
        rwa [List.length_take, min_eq_left hbehind]
      rw [← List.drop_append_of_le_length hlength, ← hfirst, List.take_append_drop]
    rw [hsplit]
    exact hsub
  · rw [valuesOf_append, hfold, List.getLast?_append, Option.or_assoc, h.last, h'.last]

end Passes

/-- **What becomes of a slot by moves** that are made one after the other. -/
theorem passes_play {k : Nat} {ms : List Move} (hms : Mild ms s) (h : s.Shows l slot)
    (hl : slot.Latest k) :
    ∃ slot', (play ms s).Shows l slot' ∧ Passes l k slot (log ms s) slot' := by
  induction ms generalizing s slot k with
  | nil => exact ⟨slot, h, .refl hl⟩
  | cons m ms ih =>
    obtain ⟨slot', h', hpasses⟩ := hms.1.passes h hl
    obtain ⟨slot'', h'', hpasses'⟩ := ih hms.2 h' hpasses.latest
    exact ⟨slot'', h'', hpasses.trans hpasses'⟩

/-! ## Entering -/

/-- Nothing is on its way to who is not there yet. -/
theorem coming_length (hs : Orderly s) (hb : Backed s) : s.coming s.listeners.length = [] := by
  have h := hb s.listeners.length
  rwa [received_eq_nil hs (kind?_length s), List.sublist_nil] at h

/-- **A new slot**: a reader or an inbox of the running loop that enters has been handed its first
value, and nothing else. -/
theorem shows_entered (hs : Orderly s) (hb : Backed s) {e : Entrance} (hreact : Lawful mild react)
    (he : e.listener = .reader e.topic none false ∨ e.listener = .inbox e.topic .running none false)
    (value : Bool) :
    ∃ slot, (handed react value s.listeners.length (s.entered e)).Shows s.listeners.length slot ∧
      slot.Latest 0 ∧ slot.arrived ++ slot.coming = [value] := by
  have hreached : e.listener.isReached := by rcases he with he | he <;> rw [he] <;> rfl
  have hunread : e.listener.unread = none := by rcases he with he | he <;> rw [he] <;> rfl
  have hordinary : e.listener.isRecorder = false := by rcases he with he | he <;> rw [he] <;> rfl
  have hlistener : (s.entered e).listener? s.listeners.length = some e.listener := by
    rw [listener?, listeners_entered, List.getElem?_concat_length]
  have hreceived : received s.listeners.length (s.entered e).history = [] :=
    (received_ensure e.topic (s.first e) s).trans (received_eq_nil hs (kind?_length s))
  have hcoming : (s.entered e).coming s.listeners.length = [] := by
    rw [← coming_length hs hb, coming, coming]
    exact congrArg _ (queue_ensure e.topic (s.first e) s)
  have hshows : (s.entered e).Shows s.listeners.length ⟨e.listener, [], []⟩ :=
    ⟨hlistener, hreached, hcoming, hreceived, fun _ => rfl⟩
  have hlatest : Slot.Latest 0 ⟨e.listener, [], []⟩ :=
    ⟨le_refl 0, fun _ => hunread, fun _ _ => hunread⟩
  have hhanded := handed_handed react value fun x hx => by
    obtain rfl := Option.some.inj (hlistener.symm.trans hx)
    exact hordinary
  obtain ⟨slot, h, hsteps⟩ := hhanded.tracks hreact.tracks _ hshows
  refine ⟨slot, h, (hsteps.latest hreached hlatest).1, h.received.symm.trans ?_⟩
  have hdelivered := received_deliver s.listeners.length s.listeners.length value (s.entered e)
  rw [hreceived, if_pos rfl, List.nil_append] at hdelivered
  have hsame {x : Listener} (hx : (s.entered e).listener? s.listeners.length = some x) :
      x = e.listener := Option.some.inj (hx.symm.trans hlistener)
  generalize handed react value s.listeners.length (s.entered e) = s' at hhanded
  cases hhanded with
  | passed hclosed =>
    have hc := hclosed _ hlistener
    rcases he with he | he <;> rw [he] at hc <;> cases hc
  | stored | queued => exact hdelivered
  | called hx | lost hx | dropped hx =>
    have hx := hsame hx
    rcases he with he | he <;> rw [he] at hx <;> cases hx

end Switchboard

end FeatureFlags

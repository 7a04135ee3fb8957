import FeatureFlags.Proofs.Switchboard.Hearing

/-!
# Proofs/Switchboard/LatestValue — what is read from an inbox

An inbox gets the values of its topic by way of the event loop, and has room for one of them.  In
whatever order values are published, the loop takes its turns, readings are made and the inbox is
closed, what is read is a faithful view of what was handed out (`Faithful`): each reading finds the
newest value that has arrived since the one before, and none does once the inbox is closed
(`observeAsync_faithful`).

What readings find is told by the moments at which they are made (`answersOf_eq`).  So an inbox for
which nothing is on its way whenever it is read from gives the same answers as a reader of the same
topic that is read from at the same moments.
-/

namespace FeatureFlags

namespace Switchboard

variable {react : React} {s s' s₁ : Switchboard} {l : ListenerId} {topic : Text} {value : Bool}
  {k : Nat} {r : Reading} {rs : List Reading} {m : Move} {ms ms' : List Move}

/-! ## Where readings are made -/

theorem found_of_mem_readings (h : r ∈ m.readings s) : r.found = s := by
  have hwait {w : WaitId} (h : r ∈ s.waitReadings w) : r.found = s := by
    obtain ⟨i, -, rfl⟩ := List.mem_map.1 h
    rfl
  cases m with
  | operate react o =>
    obtain ⟨i, -, rfl⟩ := List.mem_map.1 h
    rfl
  | turn =>
    rw [Move.readings] at h
    split at h
    · exact hwait h
    · cases h
  | hasten w => exact hwait h
  | _ => cases h

/-- **A reading is made after some of the moves.** -/
theorem exists_of_mem_log (h : r ∈ log ms s) :
    ∃ ms' ms'', ms = ms' ++ ms'' ∧ r.found = play ms' s := by
  induction ms generalizing s with
  | nil => cases h
  | cons m ms ih =>
    rcases List.mem_append.1 h with h | h
    · exact ⟨[], m :: ms, rfl, found_of_mem_readings h⟩
    · obtain ⟨ms', ms'', rfl, hfound⟩ := ih h
      exact ⟨m :: ms', ms'', rfl, hfound⟩

theorem mem_log (h : r ∈ log ms s) (hms : Mild ms s) :
    ∃ ms', r.found = play ms' s ∧ Mild ms' s := by
  obtain ⟨ms', ms'', rfl, hfound⟩ := exists_of_mem_log h
  exact ⟨ms', hfound, (mild_append.1 hms).1⟩

/-- The readings from one listener. -/
def readingsOf (l : ListenerId) (rs : List Reading) : List Reading :=
  rs.filter fun r => r.listener = l

/-- What the readings from one listener find, be it a value or none. -/
def answersOf (l : ListenerId) (rs : List Reading) : List (Option Bool) :=
  (readingsOf l rs).map Reading.value

/-- **The moments** at which a listener is read from: what has happened so far, and whether the
listener is closed. -/
def moments (l : ListenerId) (rs : List Reading) : List (List Event × Bool) :=
  (readingsOf l rs).map fun r => (r.found.history, r.found.isShut l)

/-- What readings find if each finds the latest value, by what has arrived when they are made, at an
open listener. -/
def answers : Nat → List (Option (List Bool)) → List (Option Bool)
  | _, [] => []
  | k, none :: sights => none :: answers k sights
  | k, some arrived :: sights =>
    (arrived.drop k).getLast?
      :: answers (if (arrived.drop k).getLast?.isSome then arrived.length else k) sights

theorem readingsOf_cons (l : ListenerId) (r : Reading) (rs : List Reading) :
    readingsOf l (r :: rs)
      = if r.listener = l then r :: readingsOf l rs else readingsOf l rs := by
  rw [readingsOf, List.filter_cons]
  simp only [decide_eq_true_eq, readingsOf]

theorem FindsLatest.answersOf_eq (h : FindsLatest l k rs) :
    answersOf l rs = answers k ((readingsOf l rs).map fun r =>
      if r.found.isShut l then none else some (r.found.arrived l)) := by
  induction rs generalizing k with
  | nil => rfl
  | cons r rs ih =>
    obtain ⟨hr, hrs⟩ := h
    have htail := ih hrs
    rw [answersOf] at htail ⊢
    rw [readingsOf_cons]
    by_cases hl : r.listener = l
    · have hvalue := hr hl
      rw [if_pos hl, List.map_cons, List.map_cons, htail, hvalue, behind, hvalue]
      cases r.found.isShut l with
      | true => simp [answers]
      | false => simp [hl, answers]
    · rw [if_neg hl, htail, behind, if_neg fun h => hl h.1]

/-- Nothing is read from who is closed. -/
theorem FindsLatest.valuesOf_of_isShut (h : FindsLatest l k rs)
    (hs : ∀ r ∈ rs, r.listener = l → r.found.isShut l) : valuesOf l rs = [] := by
  induction rs generalizing k with
  | nil => rfl
  | cons r rs ih =>
    have htail := ih h.2 fun r hr => hs r (List.mem_cons_of_mem _ hr)
    rw [valuesOf] at htail ⊢
    rw [List.filterMap_cons, htail]
    by_cases hl : r.listener = l
    · rw [if_pos hl, h.1 hl, if_pos (hs r List.mem_cons_self hl)]
    · rw [if_neg hl]

/-! ## A faithful view -/

/-- The unread value of a listener. -/
def unread? (s : Switchboard) (l : ListenerId) : Option Bool := (s.listener? l).bind Listener.unread

/-- How many values are behind after some readings: those up to the last one that was read. -/
def passed (l : ListenerId) (rs : List Reading) : Nat := rs.foldl (behind l) 0

/-- **What is seen of the latest value**: what was handed to an observation that began with some
value is this value and what its topic was given since then, until it was closed; what was read from
it is taken from what was handed to it, in its order and nothing twice; each reading found the
newest value that had arrived and was not read; and nothing that was handed to an open observation
and has arrived is lost unless a newer value has taken its place, or is behind the last value that
was read. -/
structure Sees (s₁ : Switchboard) (l : ListenerId) (topic : Text) (value : Bool)
    (rs : List Reading) (s : Switchboard) : Prop where
  handed : received l s.history <+: value :: given topic (s.history.drop s₁.history.length)
  all : s.isShut l = false →
    received l s.history = value :: given topic (s.history.drop s₁.history.length)
  read : (valuesOf l rs).Sublist (received l s.history)
  finds : FindsLatest l 0 rs
  unread : s.isShut l = false → s.coming l = [] →
    s.unread? l = ((received l s.history).drop (passed l rs)).getLast?
  last : (valuesOf l rs).getLast? = ((received l s.history).take (passed l rs)).getLast?

/-- **A faithful view of the latest value**: nothing is read from the observation once it is
closed, as long as moves are fair. -/
structure Faithful (s₁ : Switchboard) (l : ListenerId) (topic : Text) (value : Bool)
    (rs : List Reading) (s : Switchboard) : Prop extends Sees s₁ l topic value rs s where
  shut : s.isShut l → ∀ ms, Fair ms s → valuesOf l (log ms s) = []

/-- **A view of the latest value** that is faithful, and stays so as long as moves are mild: as long
as it is open the value it was handed last is the present one, and it does not open again. -/
structure Views (s₁ : Switchboard) (l : ListenerId) (topic : Text) (value : Bool)
    (rs : List Reading) (s : Switchboard) : Prop extends Sees s₁ l topic value rs s where
  current : s.isShut l = false → (received l s.history).getLast? = s.value? topic
  shut : s.isShut l → ∀ ms, Mild ms s → (play ms s).isShut l ∧ valuesOf l (log ms s) = []

theorem Hears.isShut_eq {base : List Bool} {x : Listener} (h : s.Hears l topic base x) :
    s.isShut l = x.closed := by
  obtain ⟨y, hy, rfl⟩ := Option.map_eq_some_iff.1 h.kind
  rw [isShut, hy, Option.any_some, Listener.closed_bare]

/-- What is closed stays closed. -/
theorem isShut_play {slot : Slot} (hms : Mild ms s) (h : s.Shows l slot) (hl : slot.Latest k)
    (hs : s.isShut l) : (play ms s).isShut l := by
  obtain ⟨slot', h', hpasses⟩ := passes_play hms h hl
  rw [h'.isShut_eq]
  exact hpasses.closed (h.isShut_eq.symm.trans hs)

/-- **A new observation views the latest value**, whatever moves are made. -/
theorem Fresh.views (h : s₁.Fresh l topic value) (hms : Mild ms s₁) :
    Views s₁ l topic value (log ms s₁) (play ms s₁) := by
  obtain ⟨ds, hs⟩ := h.sound.tallied
  obtain ⟨slot, hslot, hlatest, -⟩ := h.slot
  obtain ⟨base, x, hhears, hbase⟩ := h.hears
  obtain ⟨slot', hslot', hpasses⟩ := passes_play hms hslot hlatest
  obtain ⟨x', hhears'⟩ := hhears.play hs hms
  obtain ⟨more, hmore⟩ := (kept_remembering.play hms hs.orderly).2.2
  have hgiven : given topic (play ms s₁).history = base ++ value :: given topic more := by
    rw [← hmore, given_append, hbase, List.append_assoc]
    rfl
  have hsince : given topic ((play ms s₁).history.drop s₁.history.length) = given topic more := by
    rw [← hmore, List.drop_left]
  have hreceived := hslot'.received
  have hall (hopen : (play ms s₁).isShut l = false) :
      received l (play ms s₁).history = value :: given topic more :=
    List.append_cancel_left ((hhears'.all (hhears'.isShut_eq.symm.trans hopen)).trans hgiven)
  refine ⟨⟨?_, fun hopen => ?_, ?_, hpasses.finds, fun hopen hcoming => ?_, ?_⟩, fun hopen => ?_,
    fun hshut ms' hms' => ⟨isShut_play hms' hslot' hpasses.latest hshut, ?_⟩⟩
  · rw [hsince]
    exact (List.prefix_append_right_inj base).1 (hgiven ▸ hhears'.heard)
  · rw [hsince]
    exact hall hopen
  · have hvalues := hpasses.values
    rw [List.drop_zero] at hvalues
    rw [hreceived]
    exact (hvalues.trans (List.take_sublist _ _)).trans (List.sublist_append_left _ _)
  · have hall : received l (play ms s₁).history = slot'.arrived := by
      rw [hreceived, ← hslot'.coming, hcoming, List.append_nil]
    rw [unread?, hslot'.listener, hall]
    exact hpasses.latest.unread (hslot'.isShut_eq.symm.trans hopen)
  · rw [hreceived, passed, List.take_append_of_le_length hpasses.latest.behind, ← hpasses.last,
      List.take_zero, List.getLast?_nil, Option.or_none]
  · rw [← (h.sound.mildly hms).voiced topic, hall hopen, hgiven, List.getLast?_append,
      List.getLast?_cons]
    rfl
  · obtain ⟨slot'', -, hpasses'⟩ := passes_play hms' hslot' hpasses.latest
    refine hpasses'.finds.valuesOf_of_isShut fun r hr _ => ?_
    obtain ⟨ms'', hfound, hms''⟩ := mem_log hr hms'
    rw [hfound]
    exact isShut_play hms'' hslot' hpasses.latest hshut

/-- **A new observation gives a faithful view**, whatever moves are made. -/
theorem Fresh.faithful (h : s₁.Fresh l topic value) (hms : Fair ms s₁) :
    Faithful s₁ l topic value (log ms s₁) (play ms s₁) := by
  have hviews := h.views hms.mild
  exact ⟨hviews.toSees, fun hshut ms hms => (hviews.shut hshut ms hms.mild).2⟩

/-- **Who has caught up** has read the present value for the last one: nothing is on its way to the
observation, and nothing in it unread. -/
theorem Fresh.last_read (h : s₁.Fresh l topic value) (hms : Fair ms s₁)
    (hopen : (play ms s₁).isShut l = false) (hcoming : (play ms s₁).coming l = [])
    (hunread : (play ms s₁).unread? l = none) :
    ∃ present, (play ms s₁).value? topic = some present ∧
      (valuesOf l (log ms s₁)).getLast? = some present := by
  have hviews := h.views hms.mild
  have hnone : (received l (play ms s₁).history).drop (passed l (log ms s₁)) = [] :=
    List.getLast?_eq_none_iff.1 ((hviews.unread hopen hcoming).symm.trans hunread)
  have hread := List.take_append_drop (passed l (log ms s₁)) (received l (play ms s₁).history)
  rw [hnone, List.append_nil] at hread
  rw [hviews.last, hread, ← hviews.current hopen, hviews.all hopen, List.getLast?_cons]
  exact ⟨_, rfl, rfl⟩

/-! ## Readers and inboxes -/

/-- **What is read if nothing is on its way** whenever it is read: it is told by what the topic was
given until each of the moments. -/
theorem Fresh.answersOf_eq (h : s₁.Fresh l topic value) (hms : Fair ms s₁)
    (hidle : ∀ r ∈ log ms s₁, r.listener = l → r.found.coming l = []) :
    answersOf l (log ms s₁) = answers 0 ((moments l (log ms s₁)).map fun moment =>
      if moment.2 then none
      else some ((given topic moment.1).drop ((given topic s₁.history).length - 1))) := by
  obtain ⟨ds, hs⟩ := h.sound.tallied
  obtain ⟨base, x, hhears, hbase⟩ := h.hears
  have hlength : (given topic s₁.history).length - 1 = base.length := by
    rw [hbase, List.length_append]
    rfl
  rw [(h.faithful hms).finds.answersOf_eq, moments, List.map_map]
  refine congrArg (answers 0) (List.map_congr_left fun r hr => ?_)
  obtain ⟨hlog, hl⟩ := List.mem_filter.1 hr
  have hcoming := hidle r hlog (of_decide_eq_true hl)
  obtain ⟨ms', hfound, hms'⟩ := mem_log hlog hms.mild
  obtain ⟨x', hhears'⟩ := hhears.play hs hms'
  rw [← hfound] at hhears'
  rw [Function.comp_apply]
  cases hshut : r.found.isShut l with
  | true => rfl
  | false =>
    have hall := hhears'.all (hhears'.isShut_eq.symm.trans hshut)
    change some (r.found.arrived l) = some ((given topic r.found.history).drop _)
    rw [hlength, ← hall, List.drop_left, arrived, hcoming, List.length_nil, Nat.sub_zero,
      List.take_length]

/-- Who is a reader stays one. -/
theorem IsReader.grows (h : s.IsReader l) (hg : Grows s s') : s'.IsReader l := by
  obtain ⟨topic, unread, closed, hx⟩ := h
  obtain ⟨y, hy, hlasting⟩ := hg l _ (kind?_of_listener? hx)
  obtain ⟨z, hz, rfl⟩ := Option.map_eq_some_iff.1 hy
  cases z with
  | reader => exact ⟨_, _, _, hz⟩
  | _ => cases hlasting

/-- **Who observes by a reader** is one. -/
theorem isReader_after_observe (hs : Orderly s) (hreact : Lawful plain react) (id topic : Text)
    (initial : Option Bool) :
    (after (execute react (.observe id topic initial)) s).IsReader s.listeners.length := by
  let e : Entrance := ⟨topic, initial, .reader topic none false, .observation, id⟩
  have hentered : Orderly (s.entered e) := hs.entered (o := .observe id topic initial) rfl
  have hreader : (s.entered e).IsReader s.listeners.length := by
    refine ⟨topic, none, false, ?_⟩
    rw [listener?, listeners_entered, List.getElem?_concat_length]
  rw [after_observe]
  exact hreader.grows (proper_handed kept_plain.admits (kept_plain.lawful hreact) _ _ _
    hentered).2.1

/-- Nothing is ever on its way to a reader. -/
theorem Fresh.direct (h : s₁.Fresh l topic value) (hl : s₁.IsReader l) (hms : Mild ms s₁) :
    (play ms s₁).coming l = [] := by
  obtain ⟨slot, hslot, hlatest, -⟩ := h.slot
  obtain ⟨slot', hslot', -⟩ := passes_play hms hslot hlatest
  obtain ⟨topic, unread, closed, hreader⟩ := hl.grows (kept_plain.play hms h.sound.orderly).2.1
  have hx := Option.some.inj (hslot'.listener.symm.trans hreader)
  refine hslot'.coming.trans (hslot'.direct ?_)
  rw [hx]
  rfl

/-- A topic that was given a value before is given none by those who observe it. -/
theorem Fresh.given_observe (h : s₁.Fresh l topic value) (hreact : Lawful quiet react) (id : Text)
    (initial : Option Bool) :
    given topic (after (execute react (.observe id topic initial)) s₁).history
      = given topic s₁.history := by
  obtain ⟨base, x, -, hbase⟩ := h.hears
  have hvalue : s₁.value? topic = some value := by
    rw [← h.sound.voiced topic, hbase, List.getLast?_concat]
  rw [after_observe]
  have hgiven := (elsewhere_handed (l := s₁.listeners.length + 1) hreact.mild_of_quiet
    (Nat.ne_of_lt (Nat.lt_succ_self _))
    ((s₁.entered ⟨topic, initial, .reader topic none false, .observation, id⟩).value topic)
    (s₁.entered ⟨topic, initial, .reader topic none false, .observation, id⟩)).given topic
  refine hgiven.trans ?_
  rcases given_ensure topic topic (initial.getD (s₁.roster.isEnabled topic)) s₁ with he | ⟨hn, -⟩
  · exact he
  · rw [value?, Option.map_eq_some_iff] at hvalue
    obtain ⟨signal, hsignal, -⟩ := hvalue
    rw [hsignal] at hn
    cases hn

/-- **An inbox is a faithful view of the latest value**, whatever moves are made; and if nothing is
on its way to it whenever it is read from, it gives the answers of a reader that came right after it
and is read from at the same moments. -/
theorem observeAsync_faithful {roster : Roster} {ms₀ : List Move}
    (hms₀ : Fair ms₀ (ofRoster roster)) (hreact : Lawful quiet react)
    (hworker : (play ms₀ (ofRoster roster)).onWorker = false)
    (id topic : Text) (initial : Option Bool) :
    let s₀ := play ms₀ (ofRoster roster)
    let s₁ := after (execute react (.observeAsync id topic initial .running)) s₀
    let l := s₀.listeners.length
    (∀ ms, Fair ms s₁ →
      Faithful s₁ l topic (s₀.present topic initial) (log ms s₁) (play ms s₁)) ∧
    ∀ react' id' initial', Lawful quiet react' →
      let s₂ := after (execute react' (.observe id' topic initial')) s₁
      let l' := s₁.listeners.length
      ∀ ms, Fair ms s₂ → (∀ r ∈ log ms s₂, r.listener = l → r.found.coming l = []) →
        moments l (log ms s₂) = moments l' (log ms s₂) →
        answersOf l (log ms s₂) = answersOf l' (log ms s₂) := by
  intro s₀ s₁ l
  have hsound : s₀.Sound := (Sound.ofRoster roster).play hms₀
  have hfresh : s₁.Fresh l topic (s₀.present topic initial) :=
    fresh_observeAsync hsound hreact hworker id topic initial
  refine ⟨fun ms hms => hfresh.faithful hms, ?_⟩
  intro react' id' initial' hreact' s₂ l' ms hms hidle hmoments
  have hfresh' : s₂.Fresh l' topic (s₁.present topic initial') :=
    fresh_observe hfresh.sound hreact' id' topic initial'
  have hobserve : Move.Fair s₁ (.operate react' (.observe id' topic initial')) :=
    ⟨hreact', rfl, nofun⟩
  -- observing is a move that reads nothing
  have hmoves : Fair (.operate react' (.observe id' topic initial') :: ms) s₁ := ⟨hobserve, hms⟩
  have hinbox := hfresh.answersOf_eq hmoves hidle
  have hreader : s₂.IsReader l' :=
    isReader_after_observe hfresh.sound.orderly hreact'.plain_of_quiet id' topic initial'
  have hfound : ∀ r ∈ log ms s₂, r.listener = l' → r.found.coming l' = [] := by
    intro r hr _
    obtain ⟨ms', hfound, hms'⟩ := mem_log hr hms.mild
    rw [hfound]
    exact hfresh'.direct hreader hms'
  change answersOf l (log ms s₂) = answers 0 ((moments l (log ms s₂)).map _) at hinbox
  rw [hinbox, hfresh'.answersOf_eq hms hfound, hmoments,
    hfresh.given_observe hreact' id' initial']

/-- A move that polls a reader is fair. -/
theorem Move.fair_poll {id : Text} (h : ((s.named? .observation id).all fun l =>
    (s.listener? l).any Listener.isReader) = true) :
    Move.Fair s (.operate (fun _ _ => pure ()) (.poll id)) := by
  refine ⟨lawful_idle, rfl, ?_⟩
  rintro _ l ⟨⟩ hn
  rw [hn, Option.all_some] at h
  obtain ⟨x, hx, hr⟩ := (Option.any_eq_true _ _).1 h
  cases x with
  | reader => exact ⟨_, _, _, hx⟩
  | _ => cases hr

/-- Of two values that arrive one after the other the newer one is read, from the reader as well;
nothing is once both are closed, though a value is still on its way to the inbox. -/
theorem observeAsync_faithful_overtaken :
    let idle : React := fun _ _ => pure ()
    let s₁ := after (execute idle (.observeAsync "a" "f" none .running)) (ofRoster [])
    let s₂ := after (execute idle (.observe "o" "f" none)) s₁
    let ms : List Move := [.operate idle (.publish "f" true), .turn, .turn, .wait 0, .turn,
      .operate idle (.poll "o"), .operate idle (.publish "f" false), .operate idle (.close "a"),
      .operate idle (.close "o"), .turn, .operate idle (.next "a"), .operate idle (.poll "o")]
    Faithful s₁ 0 "f" false (log (.operate idle (.observe "o" "f" none) :: ms) s₁)
        (play (.operate idle (.observe "o" "f" none) :: ms) s₁) ∧
      received 0 (play ms s₂).history = [false, true, false] ∧
      answersOf 0 (log ms s₂) = [some true, none] ∧
      answersOf 1 (log ms s₂) = [some true, none] := by
  intro idle s₁ s₂ ms
  obtain ⟨hfaithful, halike⟩ :=
    @observeAsync_faithful idle [] [] trivial lawful_idle rfl "a" "f" none
  have hwait :
      0 < (play [.operate idle (.publish "f" true), .turn, .turn] s₂).listeners.length := by
    decide +kernel
  have hms : Fair ms s₂ :=
    ⟨⟨lawful_idle, rfl, nofun⟩, trivial, trivial, hwait, trivial,
      Move.fair_poll (by decide +kernel), ⟨lawful_idle, rfl, nofun⟩, ⟨lawful_idle, rfl, nofun⟩,
      ⟨lawful_idle, rfl, nofun⟩, trivial, ⟨lawful_idle, rfl, nofun⟩,
      Move.fair_poll (by decide +kernel), trivial⟩
  have hinbox : answersOf 0 (log ms s₂) = [some true, none] := by decide +kernel
  have hsame := halike idle "o" none lawful_idle ms hms (by decide +kernel) (by decide +kernel)
  refine ⟨hfaithful _ ⟨⟨lawful_idle, rfl, nofun⟩, hms⟩, by decide +kernel, hinbox, ?_⟩
  exact hsame.symm.trans hinbox

end Switchboard

end FeatureFlags

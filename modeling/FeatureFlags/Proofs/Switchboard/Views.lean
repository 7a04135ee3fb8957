import FeatureFlags.Switchboard.Perform

/-!
# Proofs/Switchboard/Views — what changes of a switchboard do to what is seen of it

Statements about a switchboard speak of its flags, its signals, its history, the identifiers of
listeners, and of a listener only by what never changes without notice: its kind, its topic, its
script and whether it is closed (`bare`).  Two switchboards that look the same in these are `Alike`.

Each elementary change has one lemma for each view it touches; the views it leaves alone are equal
by definition.
-/

namespace FeatureFlags

namespace Listener

/-- A listener without what it has not read and the loop it lives on. -/
def bare : Listener → Listener
  | .reader topic _ closed => .reader topic none closed
  | .inbox topic _ _ closed => .inbox topic .idle none closed
  | x => x

/-- A recorder listens to no topic of its own. -/
def isRecorder : Listener → Bool
  | .recorder _ _ => true
  | _ => false

/-- A callback is called with what it receives. -/
def isCallback : Listener → Bool
  | .callback _ _ _ => true
  | _ => false

@[simp] theorem topic?_bare (x : Listener) : x.bare.topic? = x.topic? := by cases x <;> rfl

@[simp] theorem closed_bare (x : Listener) : x.bare.closed = x.closed := by cases x <;> rfl

@[simp] theorem isRecorder_bare (x : Listener) : x.bare.isRecorder = x.isRecorder := by
  cases x <;> rfl

@[simp] theorem isCallback_bare (x : Listener) : x.bare.isCallback = x.isCallback := by
  cases x <;> rfl

theorem bare_take (x : Listener) : x.take.bare = x.bare := by cases x <;> rfl

theorem bare_closeLoop (x : Listener) : x.closeLoop.bare = x.bare := by cases x <;> rfl

theorem bare_store (value : Bool) (x : Listener) : (x.store value).bare = x.bare := by
  rcases x with _ | _ | ⟨_, _, _ | _⟩ | ⟨_, _, _, _ | _⟩ <;> rfl

end Listener

namespace Switchboard

variable {s s' s'' : Switchboard}

/-! ## Signals -/

/-- Looking up where the entries of one key have been changed. -/
theorem lookup_map_of_key {α β : Type} [DecidableEq α] [BEq α] [LawfulBEq α] (key a : α) (f : β → β)
    (xs : List (α × β)) :
    (xs.map fun (k, b) => (k, if k = key then f b else b)).lookup a
      = if a = key then (xs.lookup a).map f else xs.lookup a := by
  induction xs with
  | nil => simp
  | cons x xs ih =>
    obtain ⟨k, b⟩ := x
    rw [List.map_cons, List.lookup_cons, List.lookup_cons, ih]
    by_cases h : a = k
    · subst h
      by_cases hk : a = key <;> simp [hk]
    · simp [beq_false_of_ne h]

/-- **The signal of a topic after another one's was changed.** -/
theorem signal?_adjust (topic t : Text) (f : Signal → Signal) (s : Switchboard) :
    (s.adjust topic f).signal? t
      = if t = topic then (s.signal? t).map f else s.signal? t :=
  lookup_map_of_key topic t f s.signals

theorem signal?_write (topic t : Text) (value : Bool) (s : Switchboard) :
    (s.write topic value).signal? t
      = if t = topic then (s.signal? t).map fun signal => { signal with value }
        else s.signal? t :=
  signal?_adjust topic t (fun signal => { signal with value }) s

theorem signal?_ensure (topic t : Text) (initial : Bool) (s : Switchboard) :
    (s.ensure topic initial).signal? t
      = if t = topic then some ((s.signal? t).getD ⟨initial, []⟩) else s.signal? t := by
  unfold ensure
  split
  · by_cases ht : t = topic
    · obtain ⟨signal, h⟩ := Option.isSome_iff_exists.1 ‹_›
      rw [if_pos ht, ht, h, Option.getD_some]
    · rw [if_neg ht]
  · have hn : s.signal? topic = none := Option.not_isSome_iff_eq_none.1 ‹_›
    by_cases ht : t = topic
    · rw [if_pos ht, ht, hn]
      simp only [signal?] at hn ⊢
      simp [List.lookup_append, hn]
    · rw [if_neg ht]
      simp [signal?, List.lookup_append, List.lookup_cons, beq_false_of_ne ht]

@[simp] theorem attached_ensure (topic t : Text) (initial : Bool) (s : Switchboard) :
    (s.ensure topic initial).attached t = s.attached t := by
  rw [attached, signal?_ensure, attached]
  by_cases ht : t = topic
  · rw [if_pos ht]
    cases s.signal? t <;> rfl
  · rw [if_neg ht]

@[simp] theorem attached_write (topic t : Text) (value : Bool) (s : Switchboard) :
    (s.write topic value).attached t = s.attached t := by
  rw [attached, signal?_write, attached]
  by_cases ht : t = topic
  · rw [if_pos ht, Option.map_map]
    rfl
  · rw [if_neg ht]

theorem attached_detach (topic t : Text) (l : ListenerId) (s : Switchboard) :
    (s.detach topic l).attached t = if t = topic then (s.attached t).erase l else s.attached t := by
  rw [attached, detach, signal?_adjust, attached]
  by_cases ht : t = topic
  · rw [if_pos ht, if_pos ht]
    cases s.signal? t <;> rfl
  · rw [if_neg ht, if_neg ht]

/-- Who is attached once somebody is detached was so before. -/
theorem mem_attached_of_detach {topic t : Text} {l i : ListenerId} {s : Switchboard}
    (h : l ∈ (s.detach topic i).attached t) : l ∈ s.attached t := by
  rw [attached_detach] at h
  split at h
  · exact List.mem_of_mem_erase h
  · exact h

/-- Attaching needs the topic's signal. -/
theorem attached_attach {topic : Text} (t : Text) (l : ListenerId)
    (h : (s.signal? topic).isSome) :
    (s.attach topic l).attached t = if t = topic then s.attached t ++ [l] else s.attached t := by
  rw [attached, attach, signal?_adjust, attached]
  by_cases ht : t = topic
  · obtain ⟨signal, hs⟩ := Option.isSome_iff_exists.1 h
    rw [if_pos ht, if_pos ht, ht, hs]
    rfl
  · rw [if_neg ht, if_neg ht]

/-- The value of a topic that has a signal. -/
def value? (s : Switchboard) (topic : Text) : Option Bool := (s.signal? topic).map (·.value)

theorem value_eq (s : Switchboard) (topic : Text) : s.value topic = (s.value? topic).getD false :=
  rfl

/-- Changing who is attached changes no value. -/
theorem value?_adjust (g : List ListenerId → List ListenerId) (topic t : Text) (s : Switchboard) :
    (s.adjust topic fun signal => { signal with listeners := g signal.listeners }).value? t
      = s.value? t := by
  rw [value?, signal?_adjust, value?]
  by_cases ht : t = topic
  · rw [if_pos ht, Option.map_map]
    rfl
  · rw [if_neg ht]

theorem value?_attach (topic t : Text) (l : ListenerId) (s : Switchboard) :
    (s.attach topic l).value? t = s.value? t := value?_adjust (· ++ [l]) topic t s

theorem value?_detach (topic t : Text) (l : ListenerId) (s : Switchboard) :
    (s.detach topic l).value? t = s.value? t := value?_adjust (·.erase l) topic t s

theorem value?_ensure (topic t : Text) (initial : Bool) (s : Switchboard) :
    (s.ensure topic initial).value? t
      = if t = topic then some ((s.value? t).getD initial) else s.value? t := by
  rw [value?, signal?_ensure, value?]
  by_cases ht : t = topic
  · rw [if_pos ht, if_pos ht]
    cases s.signal? t <;> rfl
  · rw [if_neg ht, if_neg ht]

theorem value?_write (topic t : Text) (value : Bool) (s : Switchboard) :
    (s.write topic value).value? t
      = if t = topic then (s.value? t).map fun _ => value else s.value? t := by
  rw [value?, signal?_write, value?]
  by_cases ht : t = topic
  · rw [if_pos ht, if_pos ht, Option.map_map, Option.map_map]
    rfl
  · rw [if_neg ht, if_neg ht]

theorem isSome_signal?_ensure (topic : Text) (initial : Bool) (s : Switchboard) :
    ((s.ensure topic initial).signal? topic).isSome := by
  rw [signal?_ensure, if_pos rfl]
  rfl

/-! ## Listeners -/

/-- What a listener is, apart from what changes without notice. -/
def kind? (s : Switchboard) (l : ListenerId) : Option Listener := (s.listener? l).map Listener.bare

theorem kind?_of_listener? {l : ListenerId} {x : Listener} (h : s.listener? l = some x) :
    s.kind? l = some x.bare := by
  rw [kind?, h]
  rfl

theorem kind?_eq_getElem? (s : Switchboard) (l : ListenerId) :
    s.kind? l = (s.listeners.map Listener.bare)[l]? := by
  rw [kind?, listener?, List.getElem?_map]

theorem map_bare_modify {f : Listener → Listener} {l : ListenerId} {xs : List Listener}
    (hf : ∀ x, xs[l]? = some x → (f x).bare = x.bare) :
    (xs.modify l f).map Listener.bare = xs.map Listener.bare := by
  refine List.ext_getElem? fun i => ?_
  rw [List.getElem?_map, List.getElem?_map, List.getElem?_modify]
  by_cases h : l = i
  · subst h
    cases hx : xs[l]? with
    | none => rfl
    | some x => simp [hf x hx]
  · simp [h]

theorem listener?_modifyListener (i l : ListenerId) (f : Listener → Listener) (s : Switchboard) :
    (s.modifyListener i f).listener? l
      = if l = i then (s.listener? l).map f else s.listener? l := by
  rw [listener?, modifyListener, List.getElem?_modify]
  by_cases h : l = i
  · subst h
    simp [listener?]
  · simp [h, Ne.symm h, listener?]

theorem kind?_modifyListener (l i : ListenerId) (f : Listener → Listener) (s : Switchboard) :
    (s.modifyListener l f).kind? i
      = if i = l then (s.listener? i).map fun x => (f x).bare else s.kind? i := by
  rw [kind?, listener?_modifyListener]
  split
  · rw [Option.map_map]
    rfl
  · rfl

/-- What there is after a listener was changed: it, or one of the others. -/
theorem kind?_of_modifyListener {l i : ListenerId} {f : Listener → Listener} {x : Listener}
    (h : (s.modifyListener l f).kind? i = some x) :
    i ≠ l ∧ s.kind? i = some x ∨ i = l ∧ ∃ y, s.listener? i = some y ∧ x = (f y).bare := by
  rw [kind?_modifyListener] at h
  by_cases hi : i = l
  · rw [if_pos hi, Option.map_eq_some_iff] at h
    obtain ⟨y, hy, rfl⟩ := h
    exact .inr ⟨hi, y, hy, rfl⟩
  · rw [if_neg hi] at h
    exact .inl ⟨hi, h⟩

/-- A listener behind all others. -/
def enrolled (x : Listener) (s : Switchboard) : Switchboard :=
  { s with listeners := s.listeners ++ [x] }

theorem kind?_enrolled_of_lt {l : ListenerId} (x : Listener) (h : l < s.listeners.length) :
    (s.enrolled x).kind? l = s.kind? l := by
  simp [kind?, listener?, enrolled, List.getElem?_append_left h]

/-! ## Jobs of the event loop -/

/-- A value that arrives is stored, and wakes those who wait for it, if somebody is there who takes
it. -/
theorem arrive_cases (l : ListenerId) (value : Bool) (s : Switchboard) :
    s.arrive l value = s ∨ s.arrive l value = (s.modifyListener l (·.store value)).wake l := by
  unfold arrive
  split
  · exact .inl rfl
  · split
    · exact .inl rfl
    · exact .inr rfl

/-- **What the turn of a wait does.** -/
inductive Proceeded (w : WaitId) (s : Switchboard) : Switchboard → Prop
  | idle (h : ∀ l, s.waits[w]? = some ⟨l, .due⟩ → s.listener? l = none) : Proceeded w s s
  | ended {l : ListenerId} {x : Listener} (hw : s.waits[w]? = some ⟨l, .due⟩)
      (hx : s.listener? l = some x) (hc : x.closed = true) :
      Proceeded w s (s.setWait w (.over none))
  | parked {l : ListenerId} {x : Listener} (hw : s.waits[w]? = some ⟨l, .due⟩)
      (hx : s.listener? l = some x) (hc : x.closed = false) (hu : x.unread = none) :
      Proceeded w s (s.setWait w .parked)
  | read {l : ListenerId} {x : Listener} {value : Bool} (hw : s.waits[w]? = some ⟨l, .due⟩)
      (hx : s.listener? l = some x) (hc : x.closed = false) (hu : x.unread = some value) :
      Proceeded w s ((s.modifyListener l (·.take)).setWait w (.over (some value)))

theorem proceeded (w : WaitId) (s : Switchboard) : Proceeded w s (s.proceed w) := by
  unfold proceed
  split
  · rename_i l hw
    split
    · rename_i hx
      refine .idle fun i hi => ?_
      cases hw.symm.trans hi
      exact hx
    · rename_i x hx
      split
      · exact .ended hw hx ‹_›
      · rename_i hc
        have hopen := Bool.eq_false_iff.2 hc
        split
        · exact .parked hw hx hopen ‹_›
        · exact .read hw hx hopen ‹_›
  · rename_i hw
    exact .idle fun l hl => absurd hl (hw l)

/-! ## Switchboards that look the same -/

/-- **Two switchboards look the same**: what differs is at most what listeners have not read, jobs
and waits of the event loop, and records. -/
structure Alike (s s' : Switchboard) : Prop where
  roster : s'.roster = s.roster
  signals : s'.signals = s.signals
  history : s'.history = s.history
  directory : s'.directory = s.directory
  kinds : s'.listeners.map Listener.bare = s.listeners.map Listener.bare

namespace Alike

theorem refl (s : Switchboard) : Alike s s := ⟨rfl, rfl, rfl, rfl, rfl⟩

theorem trans (h : Alike s s') (h' : Alike s' s'') : Alike s s'' :=
  ⟨h'.roster.trans h.roster, h'.signals.trans h.signals, h'.history.trans h.history,
    h'.directory.trans h.directory, h'.kinds.trans h.kinds⟩

instance : Std.Refl Alike := ⟨refl⟩

instance : Trans Alike Alike Alike := ⟨trans⟩

theorem signal? (h : Alike s s') (topic : Text) : s'.signal? topic = s.signal? topic := by
  rw [Switchboard.signal?, h.signals, Switchboard.signal?]

theorem attached (h : Alike s s') (topic : Text) : s'.attached topic = s.attached topic := by
  rw [Switchboard.attached, h.signal?, Switchboard.attached]

theorem value? (h : Alike s s') (topic : Text) : s'.value? topic = s.value? topic := by
  rw [Switchboard.value?, h.signal?, Switchboard.value?]

theorem kind? (h : Alike s s') (l : ListenerId) : s'.kind? l = s.kind? l := by
  rw [kind?_eq_getElem?, h.kinds, kind?_eq_getElem?]

theorem modifyListener_of {f : Listener → Listener} {l : ListenerId}
    (hf : ∀ x, s.listener? l = some x → (f x).bare = x.bare) : Alike s (s.modifyListener l f) :=
  ⟨rfl, rfl, rfl, rfl, map_bare_modify hf⟩

theorem modifyListener {f : Listener → Listener} (hf : ∀ x, (f x).bare = x.bare) (l : ListenerId)
    (s : Switchboard) : Alike s (s.modifyListener l f) :=
  modifyListener_of fun x _ => hf x

theorem record (severity : Severity) (message : Text) (s : Switchboard) :
    Alike s (s.record severity message) := ⟨rfl, rfl, rfl, rfl, rfl⟩

theorem enqueue (l : ListenerId) (value : Bool) (s : Switchboard) : Alike s (s.enqueue l value) :=
  ⟨rfl, rfl, rfl, rfl, rfl⟩

theorem wake (l : ListenerId) (s : Switchboard) : Alike s (s.wake l) := ⟨rfl, rfl, rfl, rfl, rfl⟩

theorem setWait (w : WaitId) (state : WaitState) (s : Switchboard) : Alike s (s.setWait w state) :=
  ⟨rfl, rfl, rfl, rfl, rfl⟩

theorem queue (queue : List Job) (s : Switchboard) : Alike s { s with queue } :=
  ⟨rfl, rfl, rfl, rfl, rfl⟩

theorem arrive (l : ListenerId) (value : Bool) (s : Switchboard) : Alike s (s.arrive l value) := by
  rcases arrive_cases l value s with h | h
  · rw [h]
    exact refl s
  · rw [h]
    exact (modifyListener (Listener.bare_store value) l s).trans (wake l _)

theorem proceed (w : WaitId) (s : Switchboard) : Alike s (s.proceed w) := by
  have h := proceeded w s
  generalize s.proceed w = s' at h
  cases h with
  | idle => exact refl s
  | ended | parked => exact setWait w _ s
  | read => exact (modifyListener Listener.bare_take _ s).trans (setWait w _ _)

/-- **A turn of the event loop is not noticed.** -/
theorem turn (s : Switchboard) : Alike s s.turn := by
  unfold Switchboard.turn
  split
  · exact refl s
  · exact (queue _ s).trans (arrive _ _ { s with queue := _ })
  · exact (queue _ s).trans (proceed _ { s with queue := _ })

end Alike

end Switchboard

end FeatureFlags

import FeatureFlags.Proofs.Switchboard.History

/-!
# Proofs/Switchboard/Quiet — operations whose callbacks do nothing but fail

A quiet callback is not noticed (`Conduct.told`).  Then an operation is over with what it does
itself, and a callback that is there receives exactly what the operation writes to its topic, leaves
its topic only when it is unsubscribed, and keeps its identifier until another subscription takes it
(`Effect.follows`).
-/

namespace FeatureFlags

namespace Operation

/-- A subscription under an identifier is to be given up. -/
def ends (id : Text) : Operation → Bool
  | .unsubscribe id' => id' = id
  | _ => false

/-- An identifier is given to another subscription. -/
def reuses (id : Text) : Operation → Bool
  | .subscribe id' _ _ _ => id' = id
  | _ => false

/-- The value a topic gets by an operation. -/
def tidings? (topic : Text) (o : Operation) : Option Bool :=
  o.writing?.bind fun w => if w.topic = topic then some w.value else none

end Operation

namespace Operation

variable {o : Operation} {id : Text}

theorem eq_unsubscribe_of_ends (h : o.ends id = true) : o = .unsubscribe id := by
  cases o <;> first | exact congrArg _ (of_decide_eq_true h) | cases h

theorem tidings?_of_reuses {topic : Text} (h : o.reuses id = true) : o.tidings? topic = none := by
  cases o <;> first | rfl | cases h

theorem not_reuses_of_entrance? (h : o.entrance? = none) : o.reuses id = false := by
  cases o <;> first | rfl | cases h

theorem not_ends_of_entrance? {e : Entrance} (h : o.entrance? = some e) : o.ends id = false := by
  cases o <;> first | rfl | cases h

theorem not_ends_of_writing? {w : Writing} (h : o.writing? = some w) : o.ends id = false := by
  cases o <;> first | rfl | cases h

theorem not_ends_of_ensures? {p : Text × Bool} (h : o.ensures? = some p) : o.ends id = false := by
  cases o <;> first | rfl | cases h

theorem writing?_of_entrance? {e : Entrance} (h : o.entrance? = some e) : o.writing? = none := by
  cases o <;> first | rfl | cases h

theorem entrance?_of_writing? {w : Writing} (h : o.writing? = some w) : o.entrance? = none := by
  cases o <;> first | rfl | cases h

theorem entrance?_of_ensures? {p : Text × Bool} (h : o.ensures? = some p) : o.entrance? = none := by
  cases o <;> first | rfl | cases h

theorem writing?_of_ensures? {p : Text × Bool} (h : o.ensures? = some p) : o.writing? = none := by
  cases o <;> first | rfl | cases h

theorem roster_of_entrance? {e : Entrance} (h : o.entrance? = some e) (r : Roster) :
    o.roster r = r := by
  cases o <;> first | rfl | cases h

theorem roster_of_ensures? {p : Text × Bool} (h : o.ensures? = some p) (r : Roster) :
    o.roster r = r := by
  cases o <;> first | rfl | cases h

theorem reuses_of_entrance? {e : Entrance} (h : o.entrance? = some e) :
    o.reuses id = true ↔ (Register.subscription, id) = (e.register, e.id) := by
  cases o <;> cases h <;> simp [reuses, eq_comm]

end Operation

namespace Switchboard

variable {react : React} {s s' s'' : Switchboard} {l i : ListenerId} {value : Bool}

/-! ## What a callback is told -/

/-- There is a callback of this number. -/
def IsCallback (s : Switchboard) (l : ListenerId) : Prop :=
  ∃ x, s.kind? l = some x ∧ x.isCallback = true

theorem IsCallback.grows (h : s.IsCallback l) (hg : Grows s s') : s'.IsCallback l := by
  obtain ⟨x, hx, hc⟩ := h
  obtain ⟨x', hx', he⟩ := hg l x hx
  refine ⟨x', hx', ?_⟩
  rw [← Listener.isCallback_lasting, he, Listener.isCallback_lasting, hc]

theorem IsCallback.topic? (h : s.IsCallback l) :
    ∃ x, s.listener? l = some x ∧ x.topic? ≠ none := by
  obtain ⟨y, hy, hc⟩ := h
  obtain ⟨x, hx, rfl⟩ := Option.map_eq_some_iff.1 hy
  rw [Listener.isCallback_bare] at hc
  refine ⟨x, hx, fun ht => ?_⟩
  cases x with
  | callback => cases ht
  | _ => cases hc

theorem IsCallback.isSome (h : s.IsCallback l) : (s.kind? l).isSome := by
  obtain ⟨x, hx, -⟩ := h
  rw [hx]
  rfl

/-- Who is there is not the next to be enrolled. -/
theorem IsCallback.ne_length (h : s.IsCallback l) : l ≠ s.listeners.length := by
  rintro rfl
  obtain ⟨x, hx, -⟩ := h
  rw [kind?_length] at hx
  cases hx

/-- **A callback is told values**, and nothing else changes for it: where it is attached, and what
identifiers stand for. -/
structure Told (l : ListenerId) (values : List Bool) (s s' : Switchboard) : Prop where
  received : received l s'.history = received l s.history ++ values
  attached : ∀ topic, l ∈ s'.attached topic ↔ l ∈ s.attached topic
  directory : s'.directory = s.directory

namespace Told

theorem of_alike (h : Alike s s') : Told l [] s s' := by
  refine ⟨?_, fun topic => ?_, h.directory⟩
  · rw [h.history, List.append_nil]
  · rw [h.attached]

theorem trans {values values' : List Bool} (h : Told l values s s') (h' : Told l values' s' s'') :
    Told l (values ++ values') s s'' := by
  refine ⟨?_, fun topic => (h'.attached topic).trans (h.attached topic),
    h'.directory.trans h.directory⟩
  rw [h'.received, h.received, List.append_assoc]

theorem deliver (i : ListenerId) (value : Bool) (s : Switchboard) :
    Told l (if i = l then [value] else []) s (s.deliver i value) := by
  refine ⟨?_, fun _ => Iff.rfl, rfl⟩
  rw [Switchboard.deliver, received_append, received_handed]

theorem modifyListener (i : ListenerId) (f : Listener → Listener) (s : Switchboard) :
    Told l [] s (s.modifyListener i f) := ⟨(List.append_nil _).symm, fun _ => Iff.rfl, rfl⟩

theorem ensure (topic : Text) (b : Bool) (s : Switchboard) : Told l [] s (s.ensure topic b) := by
  refine ⟨?_, fun t => ?_, directory_ensure topic b s⟩
  · unfold Switchboard.ensure
    split
    · exact (List.append_nil _).symm
    · rw [received_append, received_written]
  · rw [attached_ensure]

theorem written (w : Writing) (s : Switchboard) : Told l [] s (s.written w) := by
  refine (Told.ensure w.topic w.initial s).trans ⟨?_, fun t => ?_, rfl⟩
  · rw [Switchboard.written, write, received_append, received_written]
  · rw [Switchboard.written, attached_write]

theorem entered (e : Entrance) (hl : l ≠ s.listeners.length) : Told l [] s (s.entered e) := by
  have h := Told.ensure (l := l) e.topic (s.first e) s
  refine ⟨h.received, fun t => ?_, h.directory⟩
  rw [attached_entered]
  split
  · rw [List.mem_append, List.mem_singleton]
    exact or_iff_left hl
  · exact Iff.rfl

theorem detach (hi : l ≠ i) (topic : Text) (s : Switchboard) : Told l [] s (s.detach topic i) := by
  refine ⟨(List.append_nil _).symm, fun t => ?_, rfl⟩
  rw [attached_detach]
  split
  · exact List.mem_erase_of_ne hi
  · exact Iff.rfl

end Told

/-- **A quiet callback is not noticed** by any callback. -/
theorem Conduct.told (h : Conduct quiet s s') : Told l [] s s' := by
  induction h with
  | done s => exact .of_alike (Alike.refl s)
  | rewrite i f _ ih => exact (Told.modifyListener i _ _).trans ih
  | perform _ _ ho => exact ho.elim

/-- **A callback that is handed a value** has received it, and then does what it does. -/
theorem Handed.recorded_called (hi : s.IsCallback i) (h : Handed react value i s s') :
    Recorded (after (react i value) (s.deliver i value)) s' := by
  obtain ⟨y, hy, hc⟩ := hi
  obtain ⟨x, hx, rfl⟩ := Option.map_eq_some_iff.1 hy
  rw [Listener.isCallback_bare] at hc
  cases h with
  | passed h =>
    have hclosed := h x hx
    cases x with
    | callback => cases hclosed
    | _ => cases hc
  | called _ h =>
    rcases h with rfl | ⟨severity, message, rfl⟩
    · exact Std.Refl.refl _
    · rfl
  | stored h | queued h | lost h | dropped h =>
    rw [hx] at h
    cases h
    cases hc

theorem Handed.alike_called (hi : s.IsCallback i) (h : Handed react value i s s') :
    Alike (after (react i value) (s.deliver i value)) s' := (h.recorded_called hi).alike

/-- A value handed to who is no callback is told to no callback. -/
theorem Handed.told_nothing (hi : ¬ s.IsCallback i) (hl : s.IsCallback l)
    (h : Handed react value i s s') : Told l [] s s' := by
  have hne : i ≠ l := fun he => hi (he ▸ hl)
  have hdeliver {s' : Switchboard} (h : Told l [] (s.deliver i value) s') : Told l [] s s' := by
    have h := (Told.deliver i value s).trans h
    rwa [if_neg hne, List.append_nil] at h
  cases h with
  | passed => exact .of_alike (Alike.refl s)
  | called hx => exact absurd ⟨_, kind?_of_listener? hx, rfl⟩ hi
  | stored =>
    exact hdeliver (.of_alike
      ((Alike.modifyListener (Listener.bare_store value) i _).trans (Alike.wake i _)))
  | queued => exact hdeliver (.of_alike (Alike.enqueue i value _))
  | lost => exact hdeliver (.of_alike (Alike.refl _))
  | @dropped topic unread closed message =>
    exact ((Told.of_alike (Alike.record .debug message s)).trans (.modifyListener i _ _)).trans
      (.detach hne.symm topic _)

/-- **A value handed to a listener is told to it**, if it is a callback, and to no other one. -/
theorem Handed.told (hreact : Lawful quiet react) (hl : s.IsCallback l)
    (h : Handed react value i s s') : Told l (if i = l then [value] else []) s s' := by
  by_cases hi : s.IsCallback i
  · have hcall : Told l _ s (after (react i value) (s.deliver i value)) :=
      (Told.deliver i value s).trans (hreact i value _).told
    have h := hcall.trans (.of_alike (h.alike_called hi))
    rwa [List.append_nil, List.append_nil] at h
  · have hne : i ≠ l := fun he => hi (he ▸ hl)
    rw [if_neg hne]
    exact h.told_nothing hi hl

/-- Quiet callbacks keep order. -/
theorem kept_quiet : Kept quiet fun _ _ => True where
  admits := kept_plain.admits
  rewrite _ _ _ := trivial
  plain := False.elim
  operate _ ho := ho.elim

/-- **What is handed out is received once** by who stands in the list, as long as it is when handed
to a single listener, and an orderly state is kept that ensures this. -/
theorem received_fanOut {Ready : Switchboard → Prop} (horderly : ∀ {s}, Ready s → Orderly s)
    (hhand : ∀ {s} i, Ready s → Ready (handed react value i s) ∧
      received l (handed react value i s).history
        = received l s.history ++ if i = l then [value] else [])
    {ls : List ListenerId} (hls : ls.Nodup) (hs : Ready s) :
    Ready (fanOut react value ls s) ∧ received l (fanOut react value ls s).history
      = received l s.history ++ if l ∈ ls then [value] else [] := by
  induction ls generalizing s with
  | nil => exact ⟨hs, (List.append_nil _).symm⟩
  | cons i ls ih =>
    obtain ⟨hi, hls⟩ := List.nodup_cons.1 hls
    obtain ⟨hs', hr⟩ := hhand i hs
    obtain ⟨hs'', hr'⟩ := ih hls hs'
    rw [fanOut_cons react value ls (horderly hs).listener?_ordinary]
    refine ⟨hs'', ?_⟩
    rw [hr', hr, List.append_assoc]
    by_cases he : i = l
    · subst he
      rw [if_pos rfl, if_neg hi, if_pos List.mem_cons_self]
      rfl
    · simp only [if_neg he, List.mem_cons, Ne.symm he, false_or, List.nil_append]

/-- **What is handed out is told to a callback once**, if it is among those it is handed to. -/
theorem told_fanOut (value : Bool) (hreact : Lawful quiet react) (hs : Orderly s)
    (hl : s.IsCallback l) {ls : List ListenerId} (hls : ls.Nodup) :
    Told l (if l ∈ ls then [value] else []) s (fanOut react value ls s) := by
  let Ready (s' : Switchboard) : Prop := Orderly s' ∧ s'.IsCallback l ∧
    (∀ topic, l ∈ s'.attached topic ↔ l ∈ s.attached topic) ∧ s'.directory = s.directory
  have hhand {s' : Switchboard} (i : ListenerId) (h : Ready s') :
      Ready (handed react value i s') ∧ received l (handed react value i s').history
        = received l s'.history ++ if i = l then [value] else [] := by
    obtain ⟨ho, hl, ha, hd⟩ := h
    have hi := handed_handed react value (l := i) ho.listener?_ordinary
    obtain ⟨ho', hg, -⟩ := hi.proper kept_quiet.admits (kept_quiet.lawful hreact) ho
    have ht := hi.told hreact hl
    exact ⟨⟨ho', hl.grows hg, fun topic => (ht.attached topic).trans (ha topic),
      ht.directory.trans hd⟩, ht.received⟩
  have hstart : Ready s := ⟨hs, hl, fun _ => Iff.rfl, rfl⟩
  obtain ⟨⟨-, -, ha, hd⟩, hr⟩ := received_fanOut (fun h => And.left h) hhand hls hstart
  exact ⟨hr, ha, hd⟩

/-! ## Writings and entrances -/

/-- An operation that comes to a writing has the effect of one. -/
theorem Effect.alike_of_writing {o : Operation} {w : Writing} (ho : o.writing? = some w)
    (h : Effect react s o s') :
    Alike (fanOut react w.value (s.attached w.topic) ((s.redefined o).written w)) s' := by
  cases h with
  | unnoticed hi => cases hi.writing.symm.trans ho
  | ensured he => cases (Operation.writing?_of_ensures? he).symm.trans ho
  | refused he | enters he => cases (Operation.writing?_of_entrance? he).symm.trans ho
  | shut | unsubscribed => cases ho
  | writes hw h =>
    obtain rfl := Option.some.inj (hw.symm.trans ho)
    exact h

/-- An operation that lets a callback in has the effect of an entrance. -/
theorem Effect.alike_of_entrance {o : Operation} {e : Entrance} (he : o.entrance? = some e)
    (hc : e.listener.isCallback) (h : Effect react s o s') :
    Alike ((handed react ((s.entered e).value e.topic) s.listeners.length (s.entered e)).name
      e.register e.id s.listeners.length) s' := by
  cases h with
  | unnoticed hi => cases hi.entrance.symm.trans he
  | ensured hs => cases (Operation.entrance?_of_ensures? hs).symm.trans he
  | refused hr hobs =>
    obtain rfl := Option.some.inj (hr.symm.trans he)
    rw [Entrance.isCallback_of_observation he hobs] at hc
    cases hc
  | shut | unsubscribed => cases he
  | writes hw => cases (Operation.entrance?_of_writing? hw).symm.trans he
  | enters hr h =>
    obtain rfl := Option.some.inj (hr.symm.trans he)
    exact h

/-! ## What becomes of a callback -/

/-- What an operation tells a listener. -/
def tells (s : Switchboard) (o : Operation) (l : ListenerId) : List Bool :=
  match o.writing? with
  | none => []
  | some w => if l ∈ s.attached w.topic then [w.value] else []

theorem tells_of_none {o : Operation} (h : o.writing? = none) : s.tells o l = [] := by
  rw [tells, h]

/-- An operation unsubscribes a listener. -/
def Unsubscribes (s : Switchboard) (o : Operation) (l : ListenerId) : Prop :=
  ∃ id, o.ends id = true ∧ s.named? .subscription id = some l

/-- **What becomes of a callback by an operation**: it is told what the operation tells it, detached
if it is unsubscribed, and loses its identifier to another subscription. -/
structure Follows (l : ListenerId) (o : Operation) (s s' : Switchboard) : Prop where
  received : received l s'.history = received l s.history ++ s.tells o l
  attached : ∀ topic, l ∈ s'.attached topic ↔ l ∈ s.attached topic ∧ ¬ s.Unsubscribes o l
  named : ∀ id, s'.named? .subscription id = some l ↔
    s.named? .subscription id = some l ∧ o.reuses id = false

/-- An operation that has to do neither with unsubscribing nor with subscribing. -/
theorem Follows.of_told {o : Operation} (h : Told l (s.tells o l) s s')
    (hends : ¬ s.Unsubscribes o l) (hreuses : ∀ id, o.reuses id = false) : Follows l o s s' := by
  refine ⟨h.received, fun topic => ?_, fun id => ?_⟩
  · rw [h.attached topic, and_iff_left hends]
  · rw [named?, h.directory, ← named?, and_iff_left (hreuses id)]

theorem Follows.alike {o : Operation} (h : Follows l o s s') (ha : Alike s' s'') :
    Follows l o s s'' := by
  refine ⟨?_, fun topic => ?_, fun id => ?_⟩
  · rw [ha.history, h.received]
  · rw [ha.attached, h.attached]
  · rw [named?, ha.directory, ← named?, h.named]

/-- What ends no subscription unsubscribes nobody. -/
theorem not_unsubscribes {o : Operation} (h : ∀ id, o.ends id = false) : ¬ s.Unsubscribes o l :=
  fun ⟨id, he, _⟩ => nomatch (h id).symm.trans he

section

variable {o : Operation} {e : Entrance}

theorem follows_idle (hl : s.IsCallback l) (ho : Idle o s) : Follows l o s (s.redefined o) := by
  refine .of_told ?_ ?_ fun id => Operation.not_reuses_of_entrance? ho.entrance
  · rw [tells_of_none ho.writing]
    exact ⟨(List.append_nil _).symm, fun _ => Iff.rfl, rfl⟩
  · rintro ⟨id, he, hn⟩
    obtain ⟨x, hx, ht⟩ := hl.topic?
    exact ht (ho.unsubscribes (Operation.eq_unsubscribe_of_ends he) hn hx)

theorem follows_ensured {topic : Text} {b : Bool} (ho : o.ensures? = some (topic, b)) :
    Follows l o s (s.ensure topic b) := by
  refine .of_told ?_ (not_unsubscribes fun id => Operation.not_ends_of_ensures? ho) fun id =>
    Operation.not_reuses_of_entrance? (Operation.entrance?_of_ensures? ho)
  rw [tells_of_none (Operation.writing?_of_ensures? ho)]
  exact Told.ensure topic b s

theorem follows_refused (ho : o.entrance? = some e) (hr : e.register = .observation) :
    Follows l o s (s.ensure e.topic (s.first e)) := by
  refine .of_told ?_ (not_unsubscribes fun id => Operation.not_ends_of_entrance? ho) fun id => ?_
  · rw [tells_of_none (Operation.writing?_of_entrance? ho)]
    exact Told.ensure e.topic (s.first e) s
  · rw [Bool.eq_false_iff, ne_eq, Operation.reuses_of_entrance? ho, hr]
    exact fun h => nomatch congrArg Prod.fst h

/-- Who is closed is no callback. -/
theorem follows_close (hs : Orderly s) (hl : s.IsCallback l) {id : Text}
    (hn : s.named? .observation id = some i) (topic : Text) :
    Follows l (.close id) s ((s.modifyListener i (·.close)).detach topic i) := by
  have hi : l ≠ i := by
    rintro rfl
    obtain ⟨y, hy, hyc⟩ := hl
    obtain ⟨z, hz, hzc⟩ := hs.observation hn
    rw [hy] at hz
    cases hz
    rw [hyc] at hzc
    cases hzc
  exact .of_told ((Told.modifyListener i (·.close) s).trans (Told.detach hi topic _))
    (not_unsubscribes fun _ => rfl) fun _ => rfl

/-- Who is unsubscribed is detached, and no other callback is. -/
theorem follows_unsubscribe (hs : Orderly s) {id topic : Text} {x : Listener}
    (hn : s.named? .subscription id = some i) (hx : s.listener? i = some x)
    (ht : x.topic? = some topic) : Follows l (.unsubscribe id) s (s.detach topic i) := by
  refine ⟨(List.append_nil _).symm, fun t => ?_, fun _ => (and_iff_left rfl).symm⟩
  by_cases hi : l = i
  · subst hi
    refine ⟨fun hmem => absurd hmem ?_, fun hmem => absurd ?_ hmem.2⟩
    · exact hs.not_mem_detach (kind?_of_listener? hx) (by rw [Listener.topic?_bare, ht]) t
    · exact ⟨id, decide_eq_true rfl, hn⟩
  · rw [(Told.detach hi topic s).attached t, and_iff_left]
    rintro ⟨id', he, hn'⟩
    obtain rfl : id = id' := of_decide_eq_true he
    exact hi (Option.some.inj (hn'.symm.trans hn))

/-- What is written is told to those attached. -/
theorem follows_writes (hreact : Lawful quiet react) (hs : Orderly s) (hl : s.IsCallback l)
    {w : Writing} (ho : o.writing? = some w) :
    Follows l o s (fanOut react w.value (s.attached w.topic) ((s.redefined o).written w)) := by
  have hl' : ((s.redefined o).written w).IsCallback l :=
    hl.grows (Grows.of_kind? (kind?_ensure w.topic w.initial (s.redefined o)))
  have hw := (Told.written (l := l) w (s.redefined o)).trans
    (told_fanOut w.value hreact ((hs.redefined o).written w) hl' (hs.nodup w.topic))
  refine .of_told ?_ (not_unsubscribes fun id => Operation.not_ends_of_writing? ho) fun id =>
    Operation.not_reuses_of_entrance? (Operation.entrance?_of_writing? ho)
  rw [tells, ho]
  exact ⟨hw.received, hw.attached, hw.directory⟩

/-- Who enters is told something, takes an identifier, and leaves all others alone. -/
theorem follows_enters (hreact : Lawful quiet react) (hs : Orderly s) (hl : s.IsCallback l)
    (ho : o.entrance? = some e) :
    Follows l o s ((handed react ((s.entered e).value e.topic) s.listeners.length
      (s.entered e)).name e.register e.id s.listeners.length) := by
  have hne := hl.ne_length
  have hhand := (handed_handed react ((s.entered e).value e.topic) (l := s.listeners.length)
    (hs.entered ho).listener?_ordinary).told hreact (hl.grows (Grows.entered e s))
  rw [if_neg (Ne.symm hne)] at hhand
  have ht := (Told.entered e hne).trans hhand
  refine ⟨?_, fun t => ?_, fun id => ?_⟩
  · rw [tells_of_none (Operation.writing?_of_entrance? ho)]
    exact ht.received
  · rw [and_iff_left (not_unsubscribes fun id => Operation.not_ends_of_entrance? ho)]
    exact ht.attached t
  · rw [named?_name, named?, ht.directory, ← named?, Bool.eq_false_iff, ne_eq,
      Operation.reuses_of_entrance? ho]
    by_cases hid : (Register.subscription, id) = (e.register, e.id)
    · rw [if_pos hid]
      exact ⟨fun he => absurd (Option.some.inj he).symm hne, fun he => absurd hid he.2⟩
    · rw [if_neg hid, and_iff_left hid]

/-- **What becomes of a callback by an operation with quiet callbacks.** -/
theorem Effect.follows (hreact : Lawful quiet react) (h : Effect react s o s') (hs : Orderly s)
    (hl : s.IsCallback l) : Follows l o s s' := by
  cases h with
  | unnoticed ho h => exact (follows_idle hl ho).alike h
  | ensured ho h => exact (follows_ensured ho).alike h
  | refused ho hr h => exact (follows_refused ho hr).alike h
  | shut hn _ _ _ h => exact (follows_close hs hl hn _).alike h
  | unsubscribed hn hx ht h => exact (follows_unsubscribe hs hn hx ht).alike h
  | writes ho h => exact (follows_writes hreact hs hl ho).alike h
  | enters ho h => exact (follows_enters hreact hs hl ho).alike h

end

end Switchboard

end FeatureFlags

import FeatureFlags.Proofs.Switchboard.Conduct

/-!
# Proofs/Switchboard/Attachment — who is attached to what, and under which identifier

A switchboard is orderly (`Orderly`) if a topic has each of its listeners once, these are open and
listen to this topic, and identifiers stand for listeners of their kind.  Listeners stay what they
are, but for being closed (`Grows`).  Here is what the elementary changes of a switchboard do to
this order.
-/

namespace FeatureFlags

namespace Listener

/-- What lasts of a listener: its kind, its label and its topic. -/
def lasting : Listener → Listener
  | .callback label topic _ => .callback label topic []
  | .recorder label _ => .recorder label []
  | .reader topic _ _ => .reader topic none false
  | .inbox topic _ _ _ => .inbox topic .idle none false

theorem lasting_bare (x : Listener) : x.bare.lasting = x.lasting := by cases x <;> rfl

theorem lasting_close (x : Listener) : x.close.lasting = x.lasting := by cases x <;> rfl

theorem lasting_withScript (script : Script) (x : Listener) :
    (x.withScript script).lasting = x.lasting := by cases x <;> rfl

theorem closed_withScript (script : Script) (x : Listener) :
    (x.withScript script).closed = x.closed := by cases x <;> rfl

theorem topic?_lasting (x : Listener) : x.lasting.topic? = x.topic? := by cases x <;> rfl

theorem isCallback_lasting (x : Listener) : x.lasting.isCallback = x.isCallback := by
  cases x <;> rfl

theorem isRecorder_lasting (x : Listener) : x.lasting.isRecorder = x.isRecorder := by
  cases x <;> rfl

end Listener

namespace Switchboard

variable {s s' s'' : Switchboard}

theorem kind?_ensure (topic : Text) (b : Bool) (s : Switchboard) (l : ListenerId) :
    (s.ensure topic b).kind? l = s.kind? l := by
  rw [kind?, listener?, listeners_ensure]
  rfl

theorem kind?_length (s : Switchboard) : s.kind? s.listeners.length = none := by
  simp [kind?, listener?]

theorem kind?_entered_self (e : Entrance) (s : Switchboard) :
    (s.entered e).kind? s.listeners.length = some e.listener.bare := by
  rw [kind?, listener?, listeners_entered, List.getElem?_concat_length]
  rfl

theorem lt_of_kind? {l : ListenerId} {x : Listener} (h : s.kind? l = some x) :
    l < s.listeners.length := by
  rw [kind?_eq_getElem?] at h
  obtain ⟨hl, -⟩ := List.getElem?_eq_some_iff.1 h
  rwa [List.length_map] at hl

theorem kind?_entered {e : Entrance} {l : ListenerId} {x : Listener}
    (h : (s.entered e).kind? l = some x) :
    s.kind? l = some x ∨ l = s.listeners.length ∧ x = e.listener.bare := by
  have hl : l < s.listeners.length + 1 := by
    have hlt := lt_of_kind? h
    rwa [listeners_entered, List.length_append] at hlt
  rcases Nat.lt_succ_iff_lt_or_eq.1 hl with hl | rfl
  · rw [kind?_eq_getElem?, listeners_entered, List.map_append,
      List.getElem?_append_left (by rwa [List.length_map]), ← kind?_eq_getElem?] at h
    exact .inl h
  · rw [kind?_entered_self] at h
    exact .inr ⟨rfl, (Option.some.inj h).symm⟩

theorem kind?_entered_of_some (e : Entrance) {l : ListenerId} {x : Listener}
    (h : s.kind? l = some x) : (s.entered e).kind? l = some x := by
  have hl : l < (s.ensure e.topic (s.first e)).listeners.length := by
    rw [listeners_ensure]
    exact lt_of_kind? h
  change ((s.ensure e.topic (s.first e)).enrolled e.listener).kind? l = some x
  rw [kind?_enrolled_of_lt _ hl, kind?_ensure, h]

theorem mem_history_ensure {topic : Text} {b : Bool} {l : ListenerId} {value : Bool}
    (h : Event.handed l value ∈ (s.ensure topic b).history) :
    Event.handed l value ∈ s.history := by
  unfold ensure at h
  split at h
  · exact h
  · simpa using h

theorem named?_entered (e : Entrance) (s : Switchboard) (register : Register) (id : Text) :
    (s.entered e).named? register id = s.named? register id := by
  change (s.ensure e.topic (s.first e)).named? register id = _
  rw [named?, directory_ensure, named?]

theorem named?_name (register register' : Register) (id id' : Text) (l : ListenerId)
    (s : Switchboard) :
    (s.name register id l).named? register' id'
      = if (register', id') = (register, id) then some l else s.named? register' id' := by
  rw [named?, name, List.lookup_cons]
  by_cases h : (register', id') = (register, id)
  · rw [if_pos h, h, beq_self_eq_true]
  · rw [if_neg h, beq_false_of_ne h]
    rfl

/-! ## Listeners last -/

/-- **Listeners last**: none is lost, and each stays what it is, but for its script and for being
closed. -/
def Grows (s s' : Switchboard) : Prop :=
  ∀ l x, s.kind? l = some x → ∃ x', s'.kind? l = some x' ∧ x'.lasting = x.lasting

namespace Grows

instance : Std.Refl Grows := ⟨fun _ _ x h => ⟨x, h, rfl⟩⟩

theorem trans (h : Grows s s') (h' : Grows s' s'') : Grows s s'' := by
  intro l x hx
  obtain ⟨x', hx', he⟩ := h l x hx
  obtain ⟨x'', hx'', he'⟩ := h' l x' hx'
  exact ⟨x'', hx'', he'.trans he⟩

instance : Trans Grows Grows Grows := ⟨trans⟩

theorem of_kind? (h : ∀ l, s'.kind? l = s.kind? l) : Grows s s' :=
  fun l x hx => ⟨x, (h l).trans hx, rfl⟩

theorem of_alike (h : Alike s s') : Grows s s' := of_kind? h.kind?

theorem modifyListener {f : Listener → Listener} (hf : ∀ x, (f x).lasting = x.lasting)
    (l : ListenerId) (s : Switchboard) : Grows s (s.modifyListener l f) := by
  intro i x hx
  rw [kind?_modifyListener]
  by_cases h : i = l
  · rw [kind?, Option.map_eq_some_iff] at hx
    obtain ⟨y, hy, rfl⟩ := hx
    refine ⟨(f y).bare, by rw [if_pos h, hy]; rfl, ?_⟩
    rw [Listener.lasting_bare, Listener.lasting_bare, hf]
  · exact ⟨x, by rw [if_neg h, hx], rfl⟩

theorem close (l : ListenerId) (s : Switchboard) : Grows s (s.modifyListener l (·.close)) :=
  modifyListener Listener.lasting_close l s

theorem rewritten (l : ListenerId) (f : Script → Script) (s : Switchboard) :
    Grows s (s.rewritten l f) :=
  modifyListener (fun _ => Listener.lasting_withScript _ _) l s

theorem entered (e : Entrance) (s : Switchboard) : Grows s (s.entered e) :=
  fun _ x hx => ⟨x, kind?_entered_of_some e hx, rfl⟩

/-- A listener keeps its topic. -/
theorem topic? (h : Grows s s') {l : ListenerId} {x x' : Listener} (hx : s.kind? l = some x)
    (hx' : s'.kind? l = some x') : x'.topic? = x.topic? := by
  obtain ⟨y, hy, he⟩ := h l x hx
  obtain rfl : x' = y := Option.some.inj (hx'.symm.trans hy)
  rw [← Listener.topic?_lasting, he, Listener.topic?_lasting]

end Grows

/-! ## Order -/

/-- **An orderly switchboard.** -/
structure Orderly (s : Switchboard) : Prop where
  nodup : ∀ topic, (s.attached topic).Nodup
  member : ∀ {topic l}, l ∈ s.attached topic →
    ∃ x, s.kind? l = some x ∧ x.topic? = some topic ∧ x.closed = false
  ordinary : ∀ {l x}, s.kind? l = some x → x.isRecorder = false
  known : ∀ {l value}, Event.handed l value ∈ s.history → (s.kind? l).isSome
  subscription : ∀ {id l}, s.named? .subscription id = some l →
    ∃ x, s.kind? l = some x ∧ x.isCallback = true
  observation : ∀ {id l}, s.named? .observation id = some l →
    ∃ x, s.kind? l = some x ∧ x.isCallback = false

namespace Orderly

/-- Who is attached to a topic is attached to no other one. -/
theorem topic_unique (h : Orderly s) {t t' : Text} {l : ListenerId} (hl : l ∈ s.attached t)
    (hl' : l ∈ s.attached t') : t = t' := by
  obtain ⟨x, hx, ht, -⟩ := h.member hl
  obtain ⟨x', hx', ht', -⟩ := h.member hl'
  obtain rfl : x = x' := Option.some.inj (hx.symm.trans hx')
  exact Option.some.inj (ht.symm.trans ht')

theorem listener?_ordinary (h : Orderly s) {l : ListenerId} :
    ∀ x, s.listener? l = some x → x.isRecorder = false := by
  intro x hx
  rw [← Listener.isRecorder_bare]
  exact h.ordinary (kind?_of_listener? hx)

/-- A switchboard that grows orderly: fewer or the same attached, nothing handed to who is not
there, no other identifiers. -/
theorem of_grows (h : Orderly s) (hg : Grows s s')
    (hattached : ∀ topic, (s'.attached topic).Sublist (s.attached topic))
    (hopen : ∀ {topic l x}, l ∈ s'.attached topic → s'.kind? l = some x → x.closed = false)
    (hordinary : ∀ {l x}, s'.kind? l = some x → x.isRecorder = false)
    (hhistory : ∀ {l value}, Event.handed l value ∈ s'.history →
      Event.handed l value ∈ s.history ∨ (s.kind? l).isSome)
    (hdirectory : s'.directory = s.directory) : Orderly s' where
  nodup topic := (h.nodup topic).sublist (hattached topic)
  member {topic l} hl := by
    obtain ⟨x, hx, ht, -⟩ := h.member ((hattached topic).subset hl)
    obtain ⟨x', hx', -⟩ := hg l x hx
    exact ⟨x', hx', (hg.topic? hx hx').trans ht, hopen hl hx'⟩
  ordinary := hordinary
  known {l value} hl := by
    have hs : (s.kind? l).isSome := (hhistory hl).elim h.known id
    obtain ⟨x, hx⟩ := Option.isSome_iff_exists.1 hs
    obtain ⟨x', hx', -⟩ := hg l x hx
    rw [hx']
    rfl
  subscription {id l} hl := by
    rw [named?, hdirectory] at hl
    obtain ⟨x, hx, hc⟩ := h.subscription hl
    obtain ⟨x', hx', he⟩ := hg l x hx
    refine ⟨x', hx', ?_⟩
    rw [← Listener.isCallback_lasting, he, Listener.isCallback_lasting, hc]
  observation {id l} hl := by
    rw [named?, hdirectory] at hl
    obtain ⟨x, hx, hc⟩ := h.observation hl
    obtain ⟨x', hx', he⟩ := hg l x hx
    refine ⟨x', hx', ?_⟩
    rw [← Listener.isCallback_lasting, he, Listener.isCallback_lasting, hc]

/-- The same with listeners that are what they were. -/
theorem of_kind? (h : Orderly s) (hk : ∀ l, s'.kind? l = s.kind? l)
    (hattached : ∀ topic, (s'.attached topic).Sublist (s.attached topic))
    (hhistory : ∀ {l value}, Event.handed l value ∈ s'.history →
      Event.handed l value ∈ s.history ∨ (s.kind? l).isSome)
    (hdirectory : s'.directory = s.directory) : Orderly s' := by
  refine h.of_grows (Grows.of_kind? hk) hattached ?_ ?_ hhistory hdirectory
  · intro topic l x hl hx
    obtain ⟨x', hx', -, hc⟩ := h.member ((hattached topic).subset hl)
    obtain rfl : x = x' := Option.some.inj (hx.symm.trans ((hk l).trans hx'))
    exact hc
  · intro l x hx
    exact h.ordinary ((hk l).symm.trans hx)

theorem ofRoster (roster : Roster) : Orderly (ofRoster roster) where
  nodup _ := List.nodup_nil
  member := nofun
  ordinary := nofun
  known := nofun
  subscription := nofun
  observation := nofun

theorem alike (h : Orderly s) (ha : Alike s s') : Orderly s' := by
  refine h.of_kind? ha.kind? ?_ ?_ ha.directory
  · intro topic
    simp [ha.attached]
  · intro l value hl
    exact .inl (ha.history ▸ hl)

theorem redefined (h : Orderly s) (o : Operation) : Orderly (s.redefined o) :=
  h.of_kind? (fun _ => rfl) (fun _ => List.Sublist.refl _) .inl rfl

theorem ensure (h : Orderly s) (topic : Text) (b : Bool) : Orderly (s.ensure topic b) := by
  refine h.of_kind? (kind?_ensure topic b s) ?_ ?_ (directory_ensure topic b s)
  · intro t
    simp
  · intro l value hl
    exact .inl (mem_history_ensure hl)

theorem write (h : Orderly s) (topic : Text) (value : Bool) : Orderly (s.write topic value) := by
  refine h.of_kind? (fun _ => rfl) ?_ ?_ rfl
  · intro t
    simp
  · intro l v hl
    exact .inl (by simpa [Switchboard.write] using hl)

theorem written (h : Orderly s) (w : Writing) : Orderly (s.written w) :=
  (h.ensure _ _).write _ _

theorem deliver (h : Orderly s) {l : ListenerId} (hl : (s.kind? l).isSome) (value : Bool) :
    Orderly (s.deliver l value) := by
  refine h.of_kind? (fun _ => rfl) (fun _ => List.Sublist.refl _) ?_ rfl
  intro i v hi
  rcases List.mem_append.1 hi with hi | hi
  · exact .inl hi
  · rw [List.mem_singleton] at hi
    cases hi
    exact .inr hl

theorem detach (h : Orderly s) (topic : Text) (l : ListenerId) : Orderly (s.detach topic l) := by
  refine h.of_kind? (fun _ => rfl) ?_ .inl rfl
  intro t
  rw [attached_detach]
  by_cases ht : t = topic
  · rw [if_pos ht]
    exact List.erase_sublist
  · simp [ht]

/-- Who is detached where it listens is attached nowhere. -/
theorem not_mem_detach (h : Orderly s) {topic : Text} {l : ListenerId} {x : Listener}
    (hx : s.kind? l = some x) (ht : x.topic? = some topic) (t : Text) :
    l ∉ (s.detach topic l).attached t := by
  intro hl
  rw [attached_detach] at hl
  by_cases he : t = topic
  · rw [if_pos he] at hl
    exact (h.nodup t).not_mem_erase hl
  · rw [if_neg he] at hl
    obtain ⟨x', hx', ht', -⟩ := h.member hl
    obtain rfl : x = x' := Option.some.inj (hx.symm.trans hx')
    exact he (Option.some.inj (ht'.symm.trans ht))

/-- **Closing keeps order** if the listener is detached with it. -/
theorem close_detach (h : Orderly s) {topic : Text} {l : ListenerId} {x : Listener}
    (hx : s.kind? l = some x) (ht : x.topic? = some topic) :
    Orderly ((s.modifyListener l (·.close)).detach topic l) := by
  have hd := h.detach topic l
  refine hd.of_grows (Grows.close l s) (fun _ => List.Sublist.refl _) ?_ ?_ .inl rfl
  · intro t i y hi hy
    obtain ⟨y', hy', -, hc⟩ := hd.member hi
    rcases kind?_of_modifyListener (s := s) hy with ⟨-, hy⟩ | ⟨rfl, -⟩
    · obtain rfl : y = y' := Option.some.inj (hy.symm.trans hy')
      exact hc
    · exact absurd hi (h.not_mem_detach hx ht t)
  · intro i y hy
    rcases kind?_of_modifyListener (s := s) hy with ⟨-, hy⟩ | ⟨-, z, hz, rfl⟩
    · exact h.ordinary hy
    · rw [← Listener.isRecorder_lasting, Listener.lasting_bare, Listener.lasting_close,
        Listener.isRecorder_lasting]
      exact h.listener?_ordinary z hz

/-- **Rewriting a script keeps order.** -/
theorem rewritten (h : Orderly s) (l : ListenerId) (f : Script → Script) :
    Orderly (s.rewritten l f) := by
  refine h.of_grows (Grows.rewritten l f s) (fun _ => List.Sublist.refl _) ?_ ?_ .inl rfl
  · intro t i y hi hy
    obtain ⟨y', hy', -, hc⟩ := h.member hi
    rcases kind?_of_modifyListener (s := s) hy with ⟨-, hy⟩ | ⟨-, z, hz, rfl⟩
    · obtain rfl : y = y' := Option.some.inj (hy.symm.trans hy')
      exact hc
    · obtain rfl := Option.some.inj (hy'.symm.trans (kind?_of_listener? hz))
      rwa [Listener.closed_bare, Listener.closed_withScript, ← Listener.closed_bare]
  · intro i y hy
    rcases kind?_of_modifyListener (s := s) hy with ⟨-, hy⟩ | ⟨-, z, hz, rfl⟩
    · exact h.ordinary hy
    · rw [← Listener.isRecorder_lasting, Listener.lasting_bare, Listener.lasting_withScript,
        Listener.isRecorder_lasting]
      exact h.listener?_ordinary z hz

/-- A listener that enters is attached last. -/
theorem entered (h : Orderly s) {o : Operation} {e : Entrance} (ho : o.entrance? = some e) :
    Orderly (s.entered e) where
  nodup topic := by
    rw [attached_entered]
    by_cases ht : topic = e.topic
    · rw [if_pos ht]
      refine List.nodup_append.2 ⟨h.nodup topic, List.pairwise_singleton _ _, ?_⟩
      rintro l hl _ hl' rfl
      obtain ⟨x, hx, -⟩ := h.member hl
      rw [List.mem_singleton.1 hl', kind?_length] at hx
      cases hx
    · rw [if_neg ht]
      exact h.nodup topic
  member {topic l} hl := by
    rw [attached_entered] at hl
    have old (hl : l ∈ s.attached topic) : ∃ x, (s.entered e).kind? l = some x ∧
        x.topic? = some topic ∧ x.closed = false := by
      obtain ⟨x, hx, ht⟩ := h.member hl
      exact ⟨x, kind?_entered_of_some e hx, ht⟩
    by_cases ht : topic = e.topic
    · rw [if_pos ht] at hl
      rcases List.mem_append.1 hl with hl | hl
      · exact old hl
      · rw [List.mem_singleton.1 hl, ht]
        refine ⟨_, kind?_entered_self e s, ?_, ?_⟩
        · rw [Listener.topic?_bare, Entrance.topic?_listener ho]
        · rw [Listener.closed_bare, Entrance.closed_listener ho]
    · rw [if_neg ht] at hl
      exact old hl
  ordinary {l x} hx := by
    rcases kind?_entered hx with hx | ⟨-, rfl⟩
    · exact h.ordinary hx
    · rw [Listener.isRecorder_bare, Entrance.isRecorder_listener ho]
  known {l value} hl := by
    have hs : Event.handed l value ∈ s.history := by
      change Event.handed l value ∈ (s.ensure e.topic (s.first e)).history at hl
      exact mem_history_ensure hl
    obtain ⟨x, hx⟩ := Option.isSome_iff_exists.1 (h.known hs)
    rw [kind?_entered_of_some e hx]
    rfl
  subscription {id l} hl := by
    rw [named?_entered] at hl
    obtain ⟨x, hx, hc⟩ := h.subscription hl
    exact ⟨x, kind?_entered_of_some e hx, hc⟩
  observation {id l} hl := by
    rw [named?_entered] at hl
    obtain ⟨x, hx, hc⟩ := h.observation hl
    exact ⟨x, kind?_entered_of_some e hx, hc⟩

/-- **An identifier** may be given to a listener of its kind. -/
theorem name (h : Orderly s) {register : Register} {id : Text} {l : ListenerId} {x : Listener}
    (hx : s.kind? l = some x)
    (hs : register = .subscription → x.isCallback = true)
    (ho : register = .observation → x.isCallback = false) : Orderly (s.name register id l) where
  nodup := h.nodup
  member := h.member
  ordinary := h.ordinary
  known := h.known
  subscription {id' l'} hl := by
    rw [named?_name] at hl
    by_cases he : (Register.subscription, id') = (register, id)
    · rw [if_pos he] at hl
      cases hl
      exact ⟨x, hx, hs (congrArg Prod.fst he).symm⟩
    · rw [if_neg he] at hl
      exact h.subscription hl
  observation {id' l'} hl := by
    rw [named?_name] at hl
    by_cases he : (Register.observation, id') = (register, id)
    · rw [if_pos he] at hl
      cases hl
      exact ⟨x, hx, ho (congrArg Prod.fst he).symm⟩
    · rw [if_neg he] at hl
      exact h.observation hl

end Orderly

end Switchboard

end FeatureFlags

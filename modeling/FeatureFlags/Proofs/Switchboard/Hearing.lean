import FeatureFlags.Proofs.Switchboard.Passing

/-!
# Proofs/Switchboard/Hearing — an observation hears all that its topic is given

What an observation has received is what its topic was given from some beginning on: all of it while
the observation is open, and the first part of it when it has been closed (`Hears`).  Callbacks do
nothing but close observations here, or fail.  So an observation may be closed while a value is
handed out that it has yet to receive (`Lacks`), but nothing else is given to its topic meanwhile.
-/

namespace FeatureFlags

namespace Listener

/-- Readers and inboxes observe a topic. -/
def isObserver : Listener → Bool
  | .reader _ _ _ => true
  | .inbox _ _ _ _ => true
  | _ => false

theorem isObserver_close (x : Listener) : x.close.isObserver = x.isObserver := by cases x <;> rfl

theorem topic?_close (x : Listener) : x.close.topic? = x.topic? := by cases x <;> rfl

theorem bare_close (x : Listener) : x.close.bare = x.bare.close := by cases x <;> rfl

theorem close_close (x : Listener) : x.close.close = x.close := by cases x <;> rfl

/-- **An observation is closed** by closing it. -/
theorem closed_close_of_isObserver {x : Listener} (h : x.isObserver = true) :
    x.close.closed = true := by
  cases x with
  | callback | recorder => cases h
  | _ => rfl

end Listener

namespace Switchboard

variable {react : React} {s s' s'' : Switchboard} {l i : ListenerId} {o : Operation}
  {value : Bool} {topic : Text} {base : List Bool} {x : Listener}

/-- **An observation hears its topic**, from behind what the topic was given before. -/
structure Hears (s : Switchboard) (l : ListenerId) (topic : Text) (base : List Bool)
    (x : Listener) : Prop where
  kind : s.kind? l = some x
  observer : x.isObserver
  listens : x.topic? = some topic
  heard : base ++ received l s.history <+: given topic s.history
  all : x.closed = false → base ++ received l s.history = given topic s.history

/-- An observation has yet to be handed the value that was given to its topic last, if it is still
open then. -/
structure Lacks (s : Switchboard) (l : ListenerId) (topic : Text) (base : List Bool)
    (x : Listener) (value : Bool) : Prop where
  kind : s.kind? l = some x
  observer : x.isObserver
  listens : x.topic? = some topic
  lacks : base ++ received l s.history ++ [value] = given topic s.history

/-! ## What happens elsewhere -/

/-- **Something happens elsewhere**: an observation stays what it is, unless it is closed, and
receives nothing, and no topic is given anything. -/
structure Elsewhere (l : ListenerId) (s s' : Switchboard) : Prop where
  kind : ∀ x, s.kind? l = some x → x.isObserver → s'.kind? l = some x ∨ s'.kind? l = some x.close
  received : received l s'.history = received l s.history
  given : ∀ topic, given topic s'.history = given topic s.history

namespace Elsewhere

theorem trans (h : Elsewhere l s s') (h' : Elsewhere l s' s'') : Elsewhere l s s'' := by
  refine ⟨fun x hx ho => ?_, h'.received.trans h.received,
    fun topic => (h'.given topic).trans (h.given topic)⟩
  obtain hx' | hx' := h.kind x hx ho
  · exact h'.kind x hx' ho
  · obtain hx'' | hx'' := h'.kind _ hx' (x.isObserver_close.trans ho)
    · exact .inr hx''
    · exact .inr (by rwa [x.close_close] at hx'')

instance : Std.Refl (Elsewhere l) := ⟨fun _ => ⟨fun _ h _ => .inl h, rfl, fun _ => rfl⟩⟩

instance : Trans (Elsewhere l) (Elsewhere l) (Elsewhere l) := ⟨trans⟩

/-- Neither the observation nor what happened changes. -/
theorem of_same (hk : s'.kind? l = s.kind? l) (hh : s'.history = s.history) : Elsewhere l s s' :=
  ⟨fun _ hx _ => .inl (hk.trans hx), by rw [hh], fun topic => by rw [hh]⟩

theorem of_alike (h : Alike s s') : Elsewhere l s s' := of_same (h.kind? l) h.history

theorem deliver (hi : i ≠ l) (value : Bool) (s : Switchboard) :
    Elsewhere l s (s.deliver i value) := by
  refine ⟨fun _ h _ => .inl h, ?_, fun topic => ?_⟩
  · rw [received_deliver, if_neg hi, List.append_nil]
  · rw [Switchboard.deliver, given_append, given_handed, List.append_nil]

theorem modifyListener (hi : l ≠ i) (f : Listener → Listener) (s : Switchboard) :
    Elsewhere l s (s.modifyListener i f) := by
  refine of_same ?_ rfl
  rw [kind?_modifyListener, if_neg hi]

/-- **Somebody is closed**, be it the observation or another listener. -/
theorem close (i : ListenerId) (s : Switchboard) :
    Elsewhere l s (s.modifyListener i (·.close)) := by
  refine ⟨fun x hx _ => ?_, rfl, fun _ => rfl⟩
  by_cases hi : l = i
  · obtain ⟨y, hy, rfl⟩ := Option.map_eq_some_iff.1 hx
    right
    rw [kind?_modifyListener, if_pos hi, hy, Option.map_some, y.bare_close]
  · left
    rw [kind?_modifyListener, if_neg hi, hx]

theorem closing (i : ListenerId) (x : Listener) (s : Switchboard) :
    Elsewhere l s (s.closing i x) := by
  have hwake := (close (l := l) i s).trans (.of_alike (Alike.wake i _))
  rw [Switchboard.closing]
  split
  · exact hwake
  · exact hwake.trans (.of_same rfl rfl)

/-- Scripts are elsewhere. -/
theorem rewritten (i : ListenerId) (f : Script → Script) (s : Switchboard) :
    Elsewhere l s (s.rewritten i f) := by
  refine ⟨fun x hx ho => .inl ?_, rfl, fun _ => rfl⟩
  rw [Switchboard.rewritten, kind?_modifyListener]
  by_cases hi : l = i
  · obtain ⟨y, hy, rfl⟩ := Option.map_eq_some_iff.1 hx
    rw [if_pos hi, hy]
    cases y with
    | callback | recorder => cases ho
    | _ => rfl
  · rwa [if_neg hi]

end Elsewhere

/-- Callbacks that close observations at most act elsewhere. -/
theorem Lawful.elsewhere (h : Lawful mild react) (i : ListenerId) (value : Bool)
    (s : Switchboard) : Elsewhere l s (after (react i value) s) := by
  refine (h i value s).keeps (fun i f s => .rewritten i f s) ?_
  rintro react _ s - ⟨id, rfl⟩
  have heffect := execute_effect react (o := .close id) rfl s
  generalize after (execute react (.close id)) s = s' at heffect
  cases heffect with
  | unnoticed _ ha => exact .of_alike ha
  | @shut _ i _ t _ _ _ _ _ ha =>
    have hdetach : Elsewhere l (s.modifyListener i (·.close))
        ((s.modifyListener i (·.close)).detach t i) := .of_same rfl rfl
    exact ((Elsewhere.close i s).trans hdetach).trans (.of_alike ha)
  | ensured ho | refused ho | writes ho | enters ho => cases ho

/-- **A value handed to somebody else** is handed elsewhere. -/
theorem elsewhere_handed (hreact : Lawful mild react) (hi : i ≠ l) (value : Bool)
    (s : Switchboard) : Elsewhere l s (handed react value i s) := by
  have hcall : Elsewhere l s (after (react i value) (s.deliver i value)) :=
    (Elsewhere.deliver hi value s).trans (hreact.elsewhere i value _)
  rcases handed_cases react value i s with h | ⟨-, h⟩
  · generalize handed react value i s = s' at h
    cases h with
    | passed => exact Std.Refl.refl s
    | called _ h =>
      rcases h with rfl | ⟨severity, message, rfl⟩
      · exact hcall
      · exact hcall.trans (.of_alike (Alike.record severity message _))
    | stored =>
      exact ((Elsewhere.deliver hi value s).trans (.modifyListener hi.symm _ _)).trans
        (.of_alike (Alike.wake i _))
    | queued => exact (Elsewhere.deliver hi value s).trans (.of_alike (Alike.enqueue i value _))
    | lost => exact .deliver hi value s
    | @dropped t unread closed message =>
      have hclosed : Elsewhere l s ((s.record .debug message).modifyListener i (·.close)) :=
        (Elsewhere.of_alike (Alike.record .debug message s)).trans (.modifyListener hi.symm _ _)
      exact hclosed.trans (.of_same rfl rfl)
  · rw [h]
    exact hcall

namespace Hears

theorem elsewhere (h : s.Hears l topic base x) (he : Elsewhere l s s') :
    ∃ x', s'.Hears l topic base x' := by
  have heard : base ++ received l s'.history <+: given topic s'.history := by
    rw [he.received, he.given]
    exact h.heard
  obtain hk | hk := he.kind x h.kind h.observer
  · refine ⟨x, hk, h.observer, h.listens, heard, fun hc => ?_⟩
    rw [he.received, he.given]
    exact h.all hc
  · refine ⟨x.close, hk, x.isObserver_close.trans h.observer, x.topic?_close.trans h.listens, heard,
      fun hc => ?_⟩
    rw [Listener.closed_close_of_isObserver h.observer] at hc
    cases hc

/-- Neither the observation nor what happened changes. -/
theorem of_same (h : s.Hears l topic base x) (hk : s'.kind? l = s.kind? l)
    (hh : s'.history = s.history) : s'.Hears l topic base x := by
  refine ⟨hk.trans h.kind, h.observer, h.listens, ?_, fun hc => ?_⟩
  · rw [hh]
    exact h.heard
  · rw [hh]
    exact h.all hc

/-- More is given to the topic when nobody listens any more. -/
theorem grows (h : s.Hears l topic base x) (hk : s'.kind? l = s.kind? l)
    (hr : received l s'.history = received l s.history)
    (hg : given topic s.history <+: given topic s'.history)
    (ho : x.closed = false → given topic s'.history = given topic s.history) :
    s'.Hears l topic base x := by
  refine ⟨hk.trans h.kind, h.observer, h.listens, ?_, fun hc => ?_⟩
  · rw [hr]
    exact h.heard.trans hg
  · rw [hr, ho hc]
    exact h.all hc

end Hears

namespace Lacks

theorem elsewhere (h : s.Lacks l topic base x value) (he : Elsewhere l s s') :
    ∃ x', s'.Lacks l topic base x' value := by
  have hlacks : base ++ received l s'.history ++ [value] = given topic s'.history := by
    rw [he.received, he.given]
    exact h.lacks
  obtain hk | hk := he.kind x h.kind h.observer
  · exact ⟨x, hk, h.observer, h.listens, hlacks⟩
  · exact ⟨x.close, hk, x.isObserver_close.trans h.observer, x.topic?_close.trans h.listens, hlacks⟩

/-- Once the value has been delivered it is heard. -/
theorem deliver (h : s.Lacks l topic base x value) : (s.deliver l value).Hears l topic base x := by
  have heard : base ++ received l (s.deliver l value).history
      = given topic (s.deliver l value).history := by
    rw [received_deliver, if_pos rfl, ← List.append_assoc, h.lacks, Switchboard.deliver,
      given_append, given_handed, List.append_nil]
  exact ⟨h.kind, h.observer, h.listens, heard ▸ List.prefix_refl _, fun _ => heard⟩

/-- **The observation is handed the value**, unless it is closed by then or because its event loop
is. -/
theorem handed (h : s.Lacks l topic base x value) (react : React) :
    ∃ x', (handed react value l s).Hears l topic base x' := by
  obtain ⟨y, hy, rfl⟩ := Option.map_eq_some_iff.1 h.kind
  have ho := h.observer
  have hplain : ∀ z, s.listener? l = some z → z.isRecorder = false := by
    intro z hz
    obtain rfl := Option.some.inj (hy.symm.trans hz)
    cases y with
    | recorder => cases ho
    | _ => rfl
  have hhanded := handed_handed react value hplain
  have hdeliver := h.deliver
  generalize Switchboard.handed react value l s = s' at hhanded
  cases hhanded with
  | passed hclosed =>
    refine ⟨y.bare, h.kind, ho, h.listens, ?_, fun hc => ?_⟩
    · rw [← h.lacks]
      exact List.prefix_append _ _
    · rw [Listener.closed_bare, hclosed y hy] at hc
      cases hc
  | called hx =>
    obtain rfl := Option.some.inj (hy.symm.trans hx)
    cases ho
  | stored =>
    exact hdeliver.elsewhere (.of_alike
      ((Alike.modifyListener (Listener.bare_store value) l _).trans (Alike.wake l _)))
  | queued => exact hdeliver.elsewhere (.of_alike (Alike.enqueue l value _))
  | lost => exact ⟨_, hdeliver⟩
  | @dropped t unread closed message hx =>
    obtain rfl := Option.some.inj (hy.symm.trans hx)
    have hlisten : t = topic := Option.some.inj h.listens
    refine ⟨(Listener.inbox t .closed unread true).bare, ?_, rfl, congrArg some hlisten, ?_, nofun⟩
    · change ((s.record .debug message).modifyListener l (·.close)).kind? l = _
      rw [kind?_modifyListener, if_pos rfl]
      change (s.listener? l).map _ = _
      rw [hx]
      rfl
    · change base ++ received l s.history <+: given topic s.history
      rw [← h.lacks]
      exact List.prefix_append _ _

end Lacks

/-! ## Handing out -/

/-- A value that is handed out to others. -/
theorem Hears.fanOut (h : s.Hears l topic base x) (hreact : Lawful mild react) (hs : Orderly s)
    {ls : List ListenerId} (hl : l ∉ ls) (value : Bool) :
    ∃ x', (fanOut react value ls s).Hears l topic base x' := by
  induction ls generalizing s x with
  | nil => exact ⟨x, h⟩
  | cons i ls ih =>
    rw [List.mem_cons, not_or] at hl
    rw [fanOut_cons react value ls hs.listener?_ordinary]
    have hs' := (proper_handed kept_plain.admits (kept_plain.lawful hreact.plain_of_mild) value i s
      hs).1
    obtain ⟨x', h'⟩ := h.elsewhere (elsewhere_handed hreact (Ne.symm hl.1) value s)
    exact ih h' hs' hl.2

/-- **A value that is handed out** to an observation among others. -/
theorem Lacks.fanOut (h : s.Lacks l topic base x value) (hreact : Lawful mild react)
    (hs : Orderly s) {ls : List ListenerId} (hls : ls.Nodup) (hl : l ∈ ls) :
    ∃ x', (fanOut react value ls s).Hears l topic base x' := by
  induction ls generalizing s x with
  | nil => cases hl
  | cons i ls ih =>
    obtain ⟨hi, hls⟩ := List.nodup_cons.1 hls
    rw [fanOut_cons react value ls hs.listener?_ordinary]
    have hs' := (proper_handed kept_plain.admits (kept_plain.lawful hreact.plain_of_mild) value i s
      hs).1
    by_cases he : i = l
    · subst he
      obtain ⟨x', h'⟩ := h.handed react
      exact h'.fanOut hreact hs' hi value
    · have hl' := (List.mem_cons.1 hl).resolve_left (Ne.symm he)
      obtain ⟨x', h'⟩ := h.elsewhere (elsewhere_handed hreact he value s)
      exact ih h' hs' hls hl'

/-! ## Operations -/

theorem given_ensure (topic t : Text) (b : Bool) (s : Switchboard) :
    given topic (s.ensure t b).history = given topic s.history ∨
      (s.signal? t).isSome = false ∧ t = topic ∧
        given topic (s.ensure t b).history = given topic s.history ++ [b] := by
  unfold ensure
  split
  · exact .inl rfl
  · rename_i hn
    by_cases ht : t = topic
    · refine .inr ⟨Bool.eq_false_iff.2 hn, ht, ?_⟩
      rw [given_append, given_written, if_pos ht]
    · left
      rw [given_append, given_written, if_neg ht, List.append_nil]

theorem isSome_signal?_of_mem (h : l ∈ s.attached topic) : (s.signal? topic).isSome := by
  cases hs : s.signal? topic with
  | none =>
    rw [attached, hs] at h
    cases h
  | some => rfl

variable {ds : List Deed}

/-- An open observation is attached to its topic. -/
theorem Hears.mem_attached (h : s.Hears l topic base x) (hs : s.Tallied ds)
    (hc : x.closed = false) : l ∈ s.attached topic := by
  refine hs.attached.2 ⟨⟨x, h.kind, h.listens, hc⟩, fun he => ?_⟩
  obtain ⟨y, hy, hcall⟩ := hs.ended he
  obtain rfl := Option.some.inj (h.kind.symm.trans hy)
  have ho := h.observer
  cases x with
  | callback => cases ho
  | _ => cases hcall

/-- A signal that is made sure of. -/
theorem Hears.ensure (h : s.Hears l topic base x) (hs : s.Tallied ds) (t : Text) (b : Bool) :
    (s.ensure t b).Hears l topic base x := by
  refine h.grows (kind?_ensure t b s l) (received_ensure t b s) ?_ fun hc => ?_
  · rcases given_ensure topic t b s with he | ⟨-, -, he⟩
    · rw [he]
    · rw [he]
      exact List.prefix_append _ _
  · rcases given_ensure topic t b s with he | ⟨hn, rfl, -⟩
    · exact he
    · rw [isSome_signal?_of_mem (h.mem_attached hs hc)] at hn
      cases hn

theorem Hears.entered (h : s.Hears l topic base x) (hs : s.Tallied ds) (e : Entrance) :
    (s.entered e).Hears l topic base x := by
  have hensure := h.ensure hs e.topic (s.first e)
  refine ⟨kind?_entered_of_some e h.kind, h.observer, h.listens, hensure.heard, hensure.all⟩

/-- Only to its own topic is an observation attached. -/
theorem Hears.eq_of_mem (h : s.Hears l topic base x) (hs : Orderly s) {t : Text}
    (hl : l ∈ s.attached t) : t = topic ∧ x.closed = false := by
  obtain ⟨y, hy, ht, hc⟩ := hs.member hl
  obtain rfl := Option.some.inj (h.kind.symm.trans hy)
  exact ⟨Option.some.inj (ht.symm.trans h.listens), hc⟩

/-- **A topic is written**, and the value handed out. -/
theorem Hears.writes (h : s.Hears l topic base x) (hs : s.Tallied ds) (hreact : Lawful mild react)
    (w : Writing) :
    ∃ x', (Switchboard.fanOut react w.value (s.attached w.topic)
      ((s.redefined o).written w)).Hears l topic base x' := by
  have htally : (s.redefined o).Tallied (ds ++ []) :=
    Tells.of_kind? (fun hs => hs.redefined o) (fun _ => rfl) (fun _ => rfl) ds hs
  have hredefined : (s.redefined o).Hears l topic base x := h.of_same rfl rfl
  have hensure := hredefined.ensure htally w.topic w.initial
  have hwritten := htally.orderly.written w
  have hgiven : given topic ((s.redefined o).written w).history
      = given topic ((s.redefined o).ensure w.topic w.initial).history
        ++ if w.topic = topic then [w.value] else [] := by
    rw [Switchboard.written, write, given_append, given_written]
  have hreceived :=
    received_write (l := l) w.topic w.value ((s.redefined o).ensure w.topic w.initial)
  by_cases hl : l ∈ s.attached w.topic
  · obtain ⟨ht, hc⟩ := h.eq_of_mem hs.orderly hl
    have hlacks : ((s.redefined o).written w).Lacks l topic base x w.value := by
      refine ⟨hensure.kind, h.observer, h.listens, ?_⟩
      rw [hgiven, if_pos ht, ← hensure.all hc, ← hreceived]
      rfl
    exact hlacks.fanOut hreact hwritten (hs.orderly.nodup w.topic) hl
  · have hwrites : ((s.redefined o).written w).Hears l topic base x := by
      refine hensure.grows rfl hreceived ?_ fun hc => ?_
      · rw [hgiven]
        exact List.prefix_append _ _
      · have ht : w.topic ≠ topic := fun ht => hl (ht ▸ h.mem_attached hs hc)
        rw [hgiven, if_neg ht, List.append_nil]
    exact hwrites.fanOut hreact hwritten hl w.value

/-- **An operation is performed.** -/
theorem Hears.performed (h : s.Hears l topic base x) (hs : s.Tallied ds)
    (hreact : Lawful mild react) (ho : o.isPlain) :
    ∃ x', (after (execute react o) s).Hears l topic base x' := by
  have heffect := execute_effect react ho s
  generalize after (execute react o) s = s' at heffect
  cases heffect with
  | unnoticed _ ha =>
    have hredefined : (s.redefined o).Hears l topic base x := h.of_same rfl rfl
    exact hredefined.elsewhere (.of_alike ha)
  | ensured _ ha => exact (h.ensure hs _ _).elsewhere (.of_alike ha)
  | refused _ _ ha => exact (h.ensure hs _ _).elsewhere (.of_alike ha)
  | @shut _ i _ t _ _ _ _ _ ha =>
    have hdetach : Elsewhere l (s.modifyListener i (·.close))
        ((s.modifyListener i (·.close)).detach t i) := .of_same rfl rfl
    exact h.elsewhere (((Elsewhere.close i s).trans hdetach).trans (.of_alike ha))
  | @unsubscribed _ i _ t _ _ _ _ ha =>
    have hdetach : (s.detach t i).Hears l topic base x := h.of_same rfl rfl
    exact hdetach.elsewhere (.of_alike ha)
  | writes _ ha =>
    obtain ⟨x', h'⟩ := h.writes (o := o) hs hreact _
    exact h'.elsewhere (.of_alike ha)
  | @enters _ e _ _ ha =>
    have hne : s.listeners.length ≠ l := by
      rintro rfl
      exact nomatch (kind?_length s).symm.trans h.kind
    obtain ⟨x', hhanded⟩ := (h.entered hs e).elsewhere
      (elsewhere_handed hreact hne ((s.entered e).value e.topic) _)
    have hnamed : (Switchboard.name e.register e.id s.listeners.length
        (Switchboard.handed react ((s.entered e).value e.topic) s.listeners.length
          (s.entered e))).Hears l topic base x' := hhanded.of_same rfl rfl
    exact hnamed.elsewhere (.of_alike ha)

/-! ## Moves -/

/-- **A move is made.** -/
theorem Hears.move {m : Move} (h : s.Hears l topic base x) (hs : s.Tallied ds) (hm : m.Mild s) :
    ∃ x', (m.after s).Hears l topic base x' := by
  cases m with
  | operate react o => exact h.performed hs hm.1 hm.2.1
  | shut i =>
    rw [Move.after]
    rcases after_shut_cases i s with hsame | ⟨y, -, -, hshut⟩
    · rw [hsame]
      exact ⟨x, h⟩
    · rw [hshut]
      exact h.elsewhere (.closing i y s)
  | _ => exact h.elsewhere (.of_alike (Move.alike rfl s))

/-- **An observation hears its topic** whatever moves are made. -/
theorem Hears.play {ms : List Move} (h : s.Hears l topic base x) (hs : s.Tallied ds)
    (hms : Mild ms s) : ∃ x', (play ms s).Hears l topic base x' := by
  induction ms generalizing s x ds with
  | nil => exact ⟨x, h⟩
  | cons m ms ih =>
    obtain ⟨x', h'⟩ := h.move hs hms.1
    obtain ⟨ds', htells⟩ := Move.tells hms.1
    exact ih h' (htells ds hs) hms.2

/-! ## The past -/

/-- **What happened has happened**: history only grows. -/
def Remembering (s s' : Switchboard) : Prop := s.history <+: s'.history

namespace Remembering

theorem ensure (topic : Text) (b : Bool) (s : Switchboard) :
    Remembering s (s.ensure topic b) := by
  rw [Remembering, Switchboard.ensure]
  split
  · exact List.prefix_refl _
  · exact List.prefix_append _ _

theorem written (w : Writing) (s : Switchboard) : Remembering s (s.written w) :=
  (ensure w.topic w.initial s).trans (List.prefix_append _ _)

end Remembering

theorem admits_remembering : Admits Remembering where
  trans h h' := h.trans h'
  alike h := by
    rw [Remembering, h.history]
  deliver _ _ _ := List.prefix_append _ _
  drop _ _ _ := List.prefix_refl _
  name _ _ _ _ := List.prefix_refl _

theorem kept_remembering : Kept plain Remembering where
  admits := admits_remembering
  rewrite _ _ _ := List.prefix_refl _
  plain := id
  operate {react o s} hreact ho hs := by
    refine (execute_effect react ho s).keeps admits_remembering ?_ ?_ ?_
    · exact ⟨fun _ => List.prefix_refl _, fun topic b _ => .ensure topic b s,
        fun e _ => .ensure _ _ s, fun _ _ => List.prefix_refl _⟩
    · intro w _
      exact keeps_fanOut admits_remembering hreact hs (Remembering.written w (s.redefined o))
    · intro e he
      exact keeps_handed admits_remembering hreact hs he (Remembering.ensure _ _ s)

/-! ## The beginning -/

theorem value?_entered_self (e : Entrance) (s : Switchboard) :
    (s.entered e).value? e.topic = some (s.present e.topic e.initial) := by
  rw [value?_entered, if_pos rfl]
  rfl

theorem value_entered (e : Entrance) (s : Switchboard) :
    (s.entered e).value e.topic = s.present e.topic e.initial := by
  rw [value_eq, value?_entered_self, Option.getD_some]

/-- **A switchboard is sound** if its tally is right, what is on its way has been handed, and topics
have the values they were given. -/
structure Sound (s : Switchboard) : Prop where
  tallied : ∃ ds, s.Tallied ds
  backed : Backed s
  voiced : Voiced s

namespace Sound

theorem ofRoster (roster : Roster) : Sound (ofRoster roster) :=
  ⟨⟨[], tallied_ofRoster roster⟩, fun _ => .refl _, fun _ => rfl⟩

theorem orderly (h : s.Sound) : Orderly s := by
  obtain ⟨ds, hs⟩ := h.tallied
  exact hs.orderly

theorem move {m : Move} (h : s.Sound) (hm : m.Mild s) : (m.after s).Sound := by
  obtain ⟨ds, hs⟩ := h.tallied
  obtain ⟨ds', htells⟩ := Move.tells hm
  exact ⟨⟨_, htells ds hs⟩, hm.backs h.backed, (kept_voicing.move hm h.orderly).2.2 h.voiced⟩

/-- Who enters and is handed the present value leaves a switchboard sound. -/
theorem entered (h : s.Sound) {e : Entrance} (ho : o.entrance? = some e)
    (hreact : Lawful mild react) :
    (handed react (s.present e.topic e.initial) s.listeners.length (s.entered e)).Sound := by
  obtain ⟨ds, hs⟩ := h.tallied
  have hplain := hreact.plain_of_mild
  choose tale htale using fun l value s => (hplain l value s).account
  have htells := tells_handed (fun l value s => (htale l value s).tells)
    (s.present e.topic e.initial) s.listeners.length (s.entered e)
  have hbacks := (Backs.entered e s).trans (keeps_backs_hand hreact.backs
    (s.present e.topic e.initial) s.listeners.length _)
  have hvoiced := keeps_handed admits_voicing (kept_voicing.lawful hplain) h.orderly ho
    fun hv => hv.entered e
  rw [value_entered] at hvoiced
  exact ⟨⟨_, htells _ (Tells.entered ho s ds hs)⟩, hbacks h.backed, hvoiced h.voiced⟩

/-- **Soundness lasts** whatever moves are made. -/
theorem mildly {ms : List Move} (h : s.Sound) (hms : Mild ms s) :
    (Switchboard.play ms s).Sound := by
  induction ms generalizing s with
  | nil => exact h
  | cons m ms ih => exact ih (h.move hms.1) hms.2

theorem play {ms : List Move} (h : s.Sound) (hms : Fair ms s) : (Switchboard.play ms s).Sound :=
  h.mildly hms.mild

end Sound

/-- **A new observation**: a reader, or an inbox of the running event loop, that was handed the
value its topic has, and nothing else. -/
structure Fresh (s : Switchboard) (l : ListenerId) (topic : Text) (value : Bool) : Prop where
  sound : s.Sound
  slot : ∃ slot, s.Shows l slot ∧ slot.Latest 0 ∧ slot.arrived ++ slot.coming = [value]
  hears : ∃ base x, s.Hears l topic base x ∧ given topic s.history = base ++ [value]

/-- **Who enters hears its topic** from the present value on. -/
theorem hears_entered (hs : Orderly s) (hv : Voiced s) {e : Entrance} (ho : o.entrance? = some e)
    (hreact : Lawful mild react) (he : e.listener.isObserver) :
    ∃ base x, (handed react (s.present e.topic e.initial) s.listeners.length (s.entered e)).Hears
        s.listeners.length e.topic base x ∧
      given e.topic (handed react (s.present e.topic e.initial) s.listeners.length
        (s.entered e)).history = base ++ [s.present e.topic e.initial] := by
  have hlast := hv.entered e e.topic
  rw [value?_entered_self] at hlast
  generalize s.present e.topic e.initial = value at *
  obtain ⟨base, hbase⟩ := List.getLast?_eq_some_iff.1 hlast
  have hnothing : received s.listeners.length (s.entered e).history = [] :=
    (received_ensure e.topic (s.first e) s).trans (received_eq_nil hs (kind?_length s))
  have hlacks : (s.entered e).Lacks s.listeners.length e.topic base e.listener.bare value := by
    refine ⟨kind?_entered_self e s, ?_, ?_, ?_⟩
    · cases hx : e.listener <;> rw [hx] at he <;> first | rfl | cases he
    · rw [Listener.topic?_bare, Entrance.topic?_listener ho]
    · rw [hnothing, List.append_nil]
      exact hbase.symm
  obtain ⟨x, hhears⟩ := hlacks.handed react
  -- what is handed to anybody is nothing that a topic is given
  have hgiven := (elsewhere_handed (l := s.listeners.length + 1) hreact
    (Nat.ne_of_lt (Nat.lt_succ_self _)) value (s.entered e)).given e.topic
  exact ⟨base, x, hhears, hgiven.trans hbase⟩

/-- **An observation that enters is new.** -/
theorem fresh_entered (hs : s.Sound) {e : Entrance} (ho : o.entrance? = some e)
    (hreact : Lawful mild react)
    (he : e.listener = .reader e.topic none false ∨
      e.listener = .inbox e.topic .running none false) :
    (handed react (s.present e.topic e.initial) s.listeners.length (s.entered e)).Fresh
      s.listeners.length e.topic (s.present e.topic e.initial) := by
  have hobserver : e.listener.isObserver := by rcases he with he | he <;> rw [he] <;> rfl
  exact ⟨hs.entered ho hreact,
    shows_entered hs.orderly hs.backed hreact he (s.present e.topic e.initial),
    hears_entered hs.orderly hs.voiced ho hreact hobserver⟩

/-- An identifier makes no difference to an observation. -/
theorem Fresh.name (h : s.Fresh l topic value) {register : Register} {id : Text}
    (hs : (s.name register id i).Sound) : (s.name register id i).Fresh l topic value := by
  obtain ⟨slot, hshows, hlatest, hvalue⟩ := h.slot
  obtain ⟨base, x, hhears, hgiven⟩ := h.hears
  exact ⟨hs, ⟨slot, ⟨hshows.listener, hshows.reached, hshows.coming, hshows.received,
    hshows.direct⟩, hlatest, hvalue⟩, base, x, hhears.of_same rfl rfl, hgiven⟩

/-- **An observation that was made is new.** -/
theorem fresh_after (hs : s.Sound) {e : Entrance} (ho : o.entrance? = some e) (hplain : o.isPlain)
    (hreact : Lawful mild react)
    (he : e.listener = .reader e.topic none false ∨ e.listener = .inbox e.topic .running none false)
    (hafter : after (execute react o) s
      = (handed react ((s.entered e).value e.topic) s.listeners.length (s.entered e)).name
          e.register e.id s.listeners.length) :
    (after (execute react o) s).Fresh s.listeners.length e.topic (s.present e.topic e.initial) := by
  have hsound : (after (execute react o) s).Sound := by
    refine hs.move (m := .operate react o) ⟨hreact, hplain, ?_⟩
    rintro id l rfl
    cases ho
  rw [value_entered] at hafter
  rw [hafter] at hsound ⊢
  exact (fresh_entered hs ho hreact he).name hsound

theorem fresh_observe (hs : s.Sound) (hreact : Lawful quiet react) (id topic : Text)
    (initial : Option Bool) :
    (after (execute react (.observe id topic initial)) s).Fresh s.listeners.length topic
      (s.present topic initial) :=
  fresh_after (e := ⟨topic, initial, .reader topic none false, .observation, id⟩) hs rfl rfl
    hreact.mild_of_quiet (.inl rfl) (after_observe react id topic initial s)

theorem fresh_observeAsync (hs : s.Sound) (hreact : Lawful quiet react)
    (hworker : s.onWorker = false) (id topic : Text) (initial : Option Bool) :
    (after (execute react (.observeAsync id topic initial .running)) s).Fresh s.listeners.length
      topic (s.present topic initial) := by
  refine fresh_after (e := ⟨topic, initial, .inbox topic .running none false, .observation, id⟩)
    hs rfl rfl hreact.mild_of_quiet (.inr rfl) ?_
  rw [after_observeAsync, hworker, if_neg nofun]

end Switchboard

end FeatureFlags

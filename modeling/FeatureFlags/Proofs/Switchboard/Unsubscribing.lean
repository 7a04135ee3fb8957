import FeatureFlags.Proofs.Switchboard.Quiet

/-!
# Proofs/Switchboard/Unsubscribing — what a callback still receives once it is unsubscribed

A value is handed to the listeners that are attached when the handing out begins.  A callback may
unsubscribe another one while this goes on, and inside it further values may be handed out, so that
there is a stack of handings which have yet to be finished (`Amid`), each with those who are still
to be served:

    publish  ──▸  served  ──▸  callback  ──▸  publish  ──▸  callback  ──▸  unsubscribe l
      waiting: l, …                             waiting: l, …

Who is unsubscribed is attached nowhere and stays so (`Departed`), hence no value published later is
handed to it.  The handings that are not finished do not look whether it is still attached: each of
them that has it in front hands it its value (`owed`).
-/

namespace FeatureFlags

namespace Switchboard

variable {react : React} {s s' s'' m c : Switchboard} {l i : ListenerId} {o : Operation}
  {value : Bool} {os : List Operation}

/-! ## Times when an operation is performed -/

/-- **A handing that is not finished**: the value, and the listeners that have yet to be served. -/
structure Handing where
  value : Bool
  waiting : List ListenerId

/-- **An operation calls a callback** in the course of a handing; the callback finds the switchboard
as it is here. -/
inductive Calling (react : React) (o : Operation) (s : Switchboard) :
    ListenerId → Handing → Switchboard → Prop
  | told {w : Writing} {passed rest : List ListenerId} {l : ListenerId} {x : Listener}
      (ho : o.writing? = some w) (hl : s.attached w.topic = passed ++ l :: rest)
      (hx : (fanOut react w.value passed ((s.redefined o).written w)).listener? l = some x)
      (hc : x.isCallback) :
      Calling react o s l ⟨w.value, rest⟩
        ((fanOut react w.value passed ((s.redefined o).written w)).deliver l w.value)
  | entered {e : Entrance} (ho : o.entrance? = some e) (hc : e.listener.isCallback) :
      Calling react o s s.listeners.length ⟨(s.entered e).value e.topic, []⟩
        ((s.entered e).deliver s.listeners.length ((s.entered e).value e.topic))

/-- These are the calls that moments come from. -/
theorem calls_iff : Calls react o s c ↔ ∃ l h, Calling react o s l h c := by
  constructor
  · rintro (⟨ho, hl, hx, hc⟩ | ⟨ho, hc⟩)
    · exact ⟨_, _, .told ho hl hx hc⟩
    · exact ⟨_, _, .entered ho hc⟩
  · rintro ⟨l, h, ⟨ho, hl, hx, hc⟩ | ⟨ho, hc⟩⟩
    · exact .told ho hl hx hc
    · exact .entered ho hc

/-- **Amid an operation** that makes one switchboard of another, an operation is performed at some
moment: it is this one itself, or it is performed amid an operation of a callback which is called in
the course of this one.  The handings that are not finished then are listed from the inside out. -/
inductive Amid (o : Operation) : List Handing → Switchboard → Switchboard → Switchboard → Prop
  | itself {m : Switchboard} {react : React} (hreact : Lawful plain react) (ho : o.isPlain) :
      Amid o [] m m (after (execute react o) m)
  | within {m s s₁ s₂ c : Switchboard} {react : React} {o₁ : Operation} {l : ListenerId}
      {h : Handing} {pending : List Handing} (hreact : Lawful plain react) (ho : o₁.isPlain)
      (hc : Calling react o₁ s l h c) (before : Conduct plain c s₁) (inner : Amid o pending m s₁ s₂)
      (later : Conduct plain s₂ (after (react l h.value) c)) :
      Amid o (pending ++ [h]) m s (after (execute react o₁) s)

/-- **A course of events** in which an operation is performed at some moment, from outside or by a
callback, and what the switchboard has become at some later time when everything has returned. -/
inductive Course (o : Operation) (pending : List Handing) (m s' : Switchboard) : Prop
  | intro {s₁ s₂ : Switchboard} {os : List Operation} (before : Reachable plain s₁)
      (h : Amid o pending m s₁ s₂) (later : Run plain plain s₂ os s')

/-! ## Callbacks that have departed -/

/-- **A callback that has departed**: it is attached nowhere. -/
structure Departed (s : Switchboard) (l : ListenerId) : Prop where
  orderly : Orderly s
  callback : s.IsCallback l
  detached : ∀ topic, l ∉ s.attached topic

/-- **A departed callback stays so**, and receives no more than some values. -/
def Leaves (l : ListenerId) (values : List Bool) (s s' : Switchboard) : Prop :=
  s.Departed l → s'.Departed l ∧ received l s'.history = received l s.history ++ values

namespace Leaves

variable {values values' : List Bool}

theorem trans (h : Leaves l values s s') (h' : Leaves l values' s' s'') :
    Leaves l (values ++ values') s s'' := by
  intro hs
  obtain ⟨hs', hr⟩ := h hs
  obtain ⟨hs'', hr'⟩ := h' hs'
  exact ⟨hs'', by rw [hr', hr, List.append_assoc]⟩

/-- A callback that is attached nowhere anew. -/
theorem of_orderly (ho : Orderly s') (hg : Grows s s')
    (ha : ∀ topic, l ∈ s'.attached topic → l ∈ s.attached topic)
    (hr : received l s'.history = received l s.history ++ values) : Leaves l values s s' :=
  fun hs => ⟨⟨ho, hs.callback.grows hg, fun topic hl => hs.detached topic (ha topic hl)⟩, hr⟩

/-- A callback that is told values and nothing else. -/
theorem of_told (h : Told l values s s') (ho : Orderly s') (hg : Grows s s') :
    Leaves l values s s' :=
  of_orderly ho hg (fun topic => (h.attached topic).1) h.received

theorem of_alike (h : Alike s s') : Leaves l [] s s' := fun hs =>
  of_told (.of_alike h) (hs.orderly.alike h) (.of_alike h) hs

/-- An identifier given at last changes nothing for a callback. -/
theorem named (h : Leaves l values s s') (ho : Orderly s'') {register : Register} {id : Text}
    (ha : Alike (s'.name register id i) s'') : Leaves l values s s'' := by
  intro hs
  obtain ⟨hd, hr⟩ := h hs
  refine ⟨⟨ho, hd.callback.grows (.of_kind? fun i => ha.kind? i), fun topic hl => ?_⟩, ?_⟩
  · rw [ha.attached] at hl
    exact hd.detached topic hl
  · rw [ha.history]
    exact hr

end Leaves

section

variable (hlaw : Lawful plain react) (hreact : ∀ i value s, Leaves l [] s (after (react i value) s))

include hlaw hreact

/-- **A value handed to a departed callback** is received by it all the same. -/
theorem leaves_handed (value : Bool) (i : ListenerId) (s : Switchboard) :
    Leaves l (if i = l then [value] else []) s (handed react value i s) := by
  intro hs
  have hi := handed_handed react value (l := i) hs.orderly.listener?_ordinary
  by_cases hc : s.IsCallback i
  · have hdeliver : Leaves l (if i = l then [value] else []) s (s.deliver i value) :=
      .of_told (.deliver i value s) (hs.orderly.deliver hc.isSome value) (.of_kind? fun _ => rfl)
    have hcall := (hdeliver.trans (hreact i value _)).trans (.of_alike (hi.alike_called hc))
    rw [List.append_nil, List.append_nil] at hcall
    exact hcall hs
  · obtain ⟨ho, hg, -⟩ := hi.proper kept_plain.admits (kept_plain.lawful hlaw) hs.orderly
    have hne : i ≠ l := fun he => hc (he ▸ hs.callback)
    rw [if_neg hne]
    exact Leaves.of_told (hi.told_nothing hc hs.callback) ho hg hs

/-- What is handed out reaches a departed callback once, if it stands in the list. -/
theorem leaves_fanOut (value : Bool) {ls : List ListenerId} (hls : ls.Nodup) (s : Switchboard) :
    Leaves l (if l ∈ ls then [value] else []) s (fanOut react value ls s) :=
  fun hs => received_fanOut (fun h => Departed.orderly h)
    (fun {s} i h => leaves_handed hlaw hreact value i s h) hls hs

/-- **An operation does not reach a departed callback.** -/
theorem leaves_execute (ho : o.isPlain) (s : Switchboard) :
    Leaves l [] s (after (execute react o) s) := by
  intro hs
  have heffect := execute_effect react ho s
  obtain ⟨ho', hg⟩ := heffect.orderly kept_plain.admits (kept_plain.lawful hlaw) hs.orderly
  cases heffect with
  | unnoticed _ h =>
    refine Leaves.of_orderly ho' hg (fun topic hl => ?_) ?_ hs
    · rwa [h.attached] at hl
    · rw [h.history, List.append_nil]
      rfl
  | ensured _ h => exact Leaves.of_told ((Told.ensure _ _ s).trans (.of_alike h)) ho' hg hs
  | refused _ _ h => exact Leaves.of_told ((Told.ensure _ _ s).trans (.of_alike h)) ho' hg hs
  | shut _ _ _ _ h | unsubscribed _ _ _ h =>
    refine Leaves.of_orderly ho' hg (fun topic hl => ?_) ?_ hs
    · rw [h.attached] at hl
      exact mem_attached_of_detach hl
    · rw [h.history, List.append_nil]
      rfl
  | @writes _ w _ _ h =>
    have ht : Told l [] (s.redefined o) ((s.redefined o).written w) := .written w _
    have hw : Leaves l [] s ((s.redefined o).written w) :=
      .of_told ⟨ht.received, ht.attached, ht.directory⟩ ((hs.orderly.redefined o).written w)
        (.of_kind? (kind?_ensure w.topic w.initial (s.redefined o)))
    have hall := (hw.trans (leaves_fanOut hlaw hreact w.value (hs.orderly.nodup w.topic) _)).trans
      (.of_alike h)
    rw [if_neg (hs.detached w.topic)] at hall
    exact hall hs
  | @enters _ e _ he h =>
    have hne := hs.callback.ne_length
    have hentered : Leaves l [] s (s.entered e) :=
      .of_told (.entered e hne) (hs.orderly.entered he) (.entered e s)
    have hhanded := hentered.trans
      (leaves_handed hlaw hreact ((s.entered e).value e.topic) s.listeners.length _)
    rw [if_neg hne.symm] at hhanded
    exact hhanded.named ho' h hs

end

/-- **Nothing that callbacks do reaches a departed one.** -/
theorem Conduct.leaves (h : Conduct plain s s') : Leaves l [] s s' := by
  induction h with
  | done s => exact .of_alike (Alike.refl s)
  | @rewrite s _ i f _ ih =>
    have hrewrite : Leaves l [] s (s.rewritten i f) := fun hs =>
      Leaves.of_told (.modifyListener i _ s) (hs.orderly.rewritten i f) (.rewritten i f s) hs
    exact hrewrite.trans ih
  | @perform s _ react o ho hreact _ ihreact ih =>
    exact (leaves_execute hreact ihreact ho s).trans ih

theorem Lawful.leaves (h : Lawful plain react) (i : ListenerId) (value : Bool) (s : Switchboard) :
    Leaves l [] s (after (react i value) s) := (h i value s).leaves

/-- **Nothing that is done from outside reaches a departed callback.** -/
theorem Run.leaves (h : Run plain plain s os s') : Leaves l [] s s' := by
  induction h with
  | done s => exact .of_alike (Alike.refl s)
  | unnoticed ha _ ih => exact (Leaves.of_alike ha).trans ih
  | operate react hreact ho _ ih =>
    exact (leaves_execute hreact hreact.leaves ho _).trans ih

/-! ## Handings that are finished later -/

/-- **What handings yet to be finished owe** a listener, the innermost first. -/
def owed (l : ListenerId) (pending : List Handing) : List Bool :=
  pending.flatMap fun h => if l ∈ h.waiting then [h.value] else []

theorem owed_concat (l : ListenerId) (pending : List Handing) (h : Handing) :
    owed l (pending ++ [h]) = owed l pending ++ if l ∈ h.waiting then [h.value] else [] := by
  rw [owed, List.flatMap_append, List.flatMap_singleton, owed]

theorem owed_eq_nil_iff {pending : List Handing} :
    owed l pending = [] ↔ ∀ h ∈ pending, l ∉ h.waiting := by
  simp [owed]

/-- Handing to a list is handing to its first part and then to the rest. -/
theorem fanOut_append (hlaw : Lawful plain react) (value : Bool) (ls ls' : List ListenerId)
    (hs : Orderly s) :
    fanOut react value (ls ++ ls') s = fanOut react value ls' (fanOut react value ls s) := by
  induction ls generalizing s with
  | nil => rfl
  | cons i ls ih =>
    have hnext := (proper_handed kept_plain.admits (kept_plain.lawful hlaw) value i s hs).1
    rw [List.cons_append, fanOut_cons react value _ hs.listener?_ordinary, ih hnext,
      fanOut_cons react value _ hs.listener?_ordinary]

namespace Calling

variable {h : Handing}

/-- A callback that is called finds an orderly switchboard. -/
theorem orderly (hc : Calling react o s i h c) (hlaw : Lawful plain react) (hs : Orderly s) :
    Orderly c := by
  cases hc with
  | @told w passed _ _ _ _ _ hx =>
    have hp := (proper_fanOut kept_plain.admits (kept_plain.lawful hlaw) w.value passed _
      ((hs.redefined o).written w)).1
    exact hp.deliver (by rw [kind?_of_listener? hx]; rfl) _
  | entered ho => exact (hs.entered ho).deliver (by rw [kind?_entered_self]; rfl) _

/-- **When a callback has returned, the handing goes on**: a departed callback is handed the value
if it has yet to be served. -/
theorem leaves (hc : Calling react o s i h c) (hlaw : Lawful plain react) (ho : o.isPlain)
    (hs : Orderly s) :
    Leaves l (if l ∈ h.waiting then [h.value] else []) (after (react i h.value) c)
      (after (execute react o) s) := by
  have heffect := execute_effect react ho s
  cases hc with
  | @told w passed rest _ x hw hl hx hc =>
    have hwritten := (hs.redefined o).written w
    have hp := (proper_fanOut kept_plain.admits (kept_plain.lawful hlaw) w.value passed _
      hwritten).1
    have hall := heffect.alike_of_writing hw
    rw [hl, fanOut_append hlaw _ _ _ hwritten,
      fanOut_cons react w.value _ hp.listener?_ordinary] at hall
    have hcalled := (handed_handed react w.value hp.listener?_ordinary).alike_called
      ⟨x.bare, kind?_of_listener? hx, by rwa [Listener.isCallback_bare]⟩
    have hrest : rest.Nodup := by
      have hnodup := hs.nodup w.topic
      rw [hl] at hnodup
      exact (List.nodup_cons.1 (List.nodup_append.1 hnodup).2.1).2
    have h := ((Leaves.of_alike (l := l) hcalled).trans
      (leaves_fanOut hlaw hlaw.leaves w.value hrest _)).trans (.of_alike hall)
    rwa [List.nil_append, List.append_nil] at h
  | @entered e he hc =>
    have ho' := (heffect.orderly kept_plain.admits (kept_plain.lawful hlaw) hs).1
    have hcalled := (handed_handed react ((s.entered e).value e.topic)
      (hs.entered he).listener?_ordinary).alike_called (i := s.listeners.length)
      ⟨e.listener.bare, kind?_entered_self e s, by rwa [Listener.isCallback_bare]⟩
    exact (Leaves.of_alike hcalled).named ho' (heffect.alike_of_entrance he hc)

end Calling

/-! ## Unsubscribing -/

/-- **Who is unsubscribed departs**, and receives nothing by this. -/
theorem departed_unsubscribe {id : Text} (hs : Orderly m)
    (hn : m.named? .subscription id = some l) :
    (after (execute react (.unsubscribe id)) m).Departed l ∧
      received l (after (execute react (.unsubscribe id)) m).history = received l m.history := by
  have hl : m.IsCallback l := hs.subscription hn
  -- no callback is called, so it does not matter what callbacks do
  have heffect : Effect (fun _ _ => pure ()) m (.unsubscribe id)
      (after (execute react (.unsubscribe id)) m) := execute_effect _ rfl m
  obtain ⟨ho, hg⟩ := heffect.orderly kept_quiet.admits (kept_quiet.lawful lawful_idle) hs
  have hfollows := heffect.follows lawful_idle hs hl
  refine ⟨⟨ho, hl.grows hg, fun topic hmem => ?_⟩, ?_⟩
  · exact ((hfollows.attached topic).1 hmem).2 ⟨id, decide_eq_true rfl, hn⟩
  · rw [hfollows.received, tells_of_none rfl, List.append_nil]

variable {pending : List Handing} {id : Text}

/-- What an unsubscribed callback still receives until the operation has returned amid which it was
unsubscribed. -/
theorem Amid.leaves (h : Amid (.unsubscribe id) pending m s s') (hs : Orderly s)
    (hn : m.named? .subscription id = some l) :
    s'.Departed l ∧ received l s'.history = received l m.history ++ owed l pending := by
  induction h with
  | itself =>
    obtain ⟨hdeparted, hr⟩ := departed_unsubscribe hs hn
    exact ⟨hdeparted, hr.trans (List.append_nil _).symm⟩
  | within hreact ho hc before _ later ih =>
    have hs₁ := (kept_plain.conduct before (hc.orderly hreact hs)).1
    obtain ⟨hdeparted, hr⟩ := ih hs₁ hn
    obtain ⟨hdeparted', hr'⟩ := later.leaves.trans (hc.leaves hreact ho hs) hdeparted
    refine ⟨hdeparted', ?_⟩
    rw [hr', hr, owed_concat, List.nil_append, List.append_assoc]

theorem Course.received_eq (h : Course (.unsubscribe id) pending m s')
    (hn : m.named? .subscription id = some l) :
    received l s'.history = received l m.history ++ owed l pending := by
  obtain ⟨before, h, later⟩ := h
  obtain ⟨hdeparted, hr⟩ := h.leaves before.orderly hn
  rw [(later.leaves hdeparted).2, hr, List.append_nil]

/-- **Unsubscribing ends what a callback receives, but for the handings that have it in front.**
Whenever a callback is unsubscribed, from outside or by whichever callback at whatever depth, it
receives afterwards the values of those handings that were not finished then and had it yet to serve,
and nothing else; so it is not called any more if and only if there was no such handing. -/
theorem received_after_unsubscribing (h : Course (.unsubscribe id) pending m s')
    (hn : m.named? .subscription id = some l) :
    received l s'.history = received l m.history ++ owed l pending ∧
      (received l s'.history = received l m.history ↔ ∀ h ∈ pending, l ∉ h.waiting) := by
  refine ⟨h.received_eq hn, ?_⟩
  rw [h.received_eq hn, List.append_right_eq_self, owed_eq_nil_iff]

/-- Two callbacks of a topic. -/
def twoCallbacks : Switchboard :=
  after (execute (fun _ _ => pure ()) (.subscribe "b" "f" none []))
    (after (execute (fun _ _ => pure ()) (.subscribe "a" "f" none [])) (ofRoster []))

/-- The first of two callbacks is called, before the second one. -/
def parting : Switchboard := (twoCallbacks.written ⟨"f", true, true⟩).deliver 0 true

/-- A topic is published while its first callback unsubscribes the second one. -/
def parted : Switchboard :=
  after (execute (whenOn (.unsubscribe "b")) (.publish "f" true)) twoCallbacks

/-- The second callback is in front of the handing amid which it is unsubscribed. -/
theorem course_parting : Course (.unsubscribe "b") [⟨true, [1]⟩] parting parted := by
  have hpair : Reachable plain twoCallbacks :=
    ((reachable_ofRoster []).operate lawful_idle rfl).operate lawful_idle rfl
  have hcall : Calling (whenOn (.unsubscribe "b")) (.publish "f" true) twoCallbacks 0
      ⟨true, [1]⟩ parting :=
    @Calling.told _ _ _ ⟨"f", true, true⟩ [] [1] 0 (.callback "a" "f" []) rfl rfl rfl rfl
  have hlaw : Lawful plain (whenOn (.unsubscribe "b")) := lawful_whenOn fun _ => rfl
  have hlast : Conduct plain (after (execute (fun _ _ => pure ()) (.unsubscribe "b")) parting)
      (after (whenOn (.unsubscribe "b") 0 true) parting) := by
    rw [after_whenOn]
    exact .done _
  exact .intro hpair (.within hlaw rfl hcall (.done _) (.itself lawful_idle rfl) hlast) (.done _)

/-- The second callback receives the value that is being handed out. -/
theorem received_parted :
    parting.named? .subscription "b" = some 1 ∧ received 1 parting.history = [false] ∧
      received 1 parted.history = [false, true] := by
  have hn : parting.named? .subscription "b" = some 1 := by decide +kernel
  have hr : received 1 parting.history = [false] := by decide +kernel
  refine ⟨hn, hr, ?_⟩
  rw [(received_after_unsubscribing course_parting hn).1, hr]
  rfl

/-- **Unsubscribing is not final**: the callback that was unsubscribed is called once more. -/
theorem unsubscribing_not_final :
    ¬ ∀ {id : Text} {l : ListenerId} {pending : List Handing} {m s' : Switchboard},
      Course (.unsubscribe id) pending m s' → m.named? .subscription id = some l →
        received l s'.history = received l m.history := by
  intro hfinal
  have h : received 1 parted.history = received 1 parting.history :=
    hfinal course_parting (by decide +kernel)
  exact absurd h (by decide +kernel)

end Switchboard

end FeatureFlags

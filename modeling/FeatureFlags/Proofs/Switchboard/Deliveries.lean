import Mathlib.Data.Multiset.Filter
import FeatureFlags.Proofs.Switchboard.Bookkeeping
import FeatureFlags.Proofs.Switchboard.Reception

/-!
# Proofs/Switchboard/Deliveries — no call is lost, and none is made twice

While a value is handed out, callbacks publish other values, subscribe, unsubscribe and fail, at
whatever depth.  All the same a publication calls those callbacks that were attached when it began,
each of them once and in their order, and nobody else; who is called between them is called by what
the callbacks do (`InTurn`):

    publish  ──▸  a called  ──▸  what a does  ──▸  b called  ──▸  what b does  ──▸  …

So an account of what was done tells what each callback was called with: once when it was let in,
and once by each publication that found it attached (`called_exactly`).  It does not tell the order,
since the deeds of a callback stand behind the deed it is called by, though they are done before the
next one is called.  What every deed keeps right is therefore a balance of the values (`Books`).
-/

namespace FeatureFlags

theorem Operation.isPlain_of_writing? {o : Operation} {w : Writing} (h : o.writing? = some w) :
    o.isPlain = true := by
  cases o <;> first | rfl | cases h

theorem Operation.no_callback_of_writing? {o : Operation} {w : Writing} (h : o.writing? = some w)
    (e : Entrance) (he : o.entrance? = some e) : e.listener.isCallback = false := by
  cases (entrance?_of_writing? h).symm.trans he

namespace Switchboard

variable {react : React} {tale : Tale} {s s' s'' m : Switchboard} {l i : ListenerId}
  {o : Operation} {value : Bool} {ds : List Deed}

/-! ## Who is called -/

instance (s : Switchboard) (l : ListenerId) : Decidable (s.IsCallback l) :=
  decidable_of_iff _ (Option.any_eq_true _ _)

/-- The callbacks of a topic, in the order of their attachment. -/
def callbacks (s : Switchboard) (topic : Text) : List ListenerId :=
  (s.attached topic).filter fun l => s.IsCallback l

theorem mem_callbacks {topic : Text} :
    l ∈ s.callbacks topic ↔ l ∈ s.attached topic ∧ s.IsCallback l := by
  rw [callbacks, List.mem_filter, decide_eq_true_eq]

/-- What a callback has been called with; who is no callback is not called. -/
def calls (s : Switchboard) (l : ListenerId) : List Bool :=
  if s.IsCallback l then received l s.history else []

/-- Who is there is a callback for ever or never. -/
theorem Grows.isCallback_iff (hg : Grows s s') (hl : (s.kind? l).isSome) :
    s'.IsCallback l ↔ s.IsCallback l := by
  obtain ⟨x, hx⟩ := Option.isSome_iff_exists.1 hl
  obtain ⟨x', hx', he⟩ := hg l x hx
  have hc : x'.isCallback = x.isCallback := by
    rw [← Listener.isCallback_lasting, he, Listener.isCallback_lasting]
  simp only [IsCallback, hx, hx', Option.some.injEq, exists_eq_left', hc]

/-- Who is there stays there. -/
theorem Grows.isSome (hg : Grows s s') (hl : (s.kind? l).isSome) : (s'.kind? l).isSome := by
  obtain ⟨x, hx⟩ := Option.isSome_iff_exists.1 hl
  obtain ⟨x', hx', -⟩ := hg l x hx
  rw [hx']
  rfl

theorem isCallback_congr (h : s'.kind? l = s.kind? l) : s'.IsCallback l ↔ s.IsCallback l := by
  rw [IsCallback, h, IsCallback]

theorem isCallback_entered_self (e : Entrance) (s : Switchboard) :
    (s.entered e).IsCallback s.listeners.length ↔ e.listener.isCallback = true := by
  rw [IsCallback, kind?_entered_self]
  simp only [Option.some.injEq, exists_eq_left', Listener.isCallback_bare]

theorem isCallback_modifyListener {f : Listener → Listener}
    (hf : ∀ x, (f x).lasting = x.lasting) :
    (s.modifyListener i f).IsCallback l ↔ s.IsCallback l := by
  have hc (x : Listener) : (f x).isCallback = x.isCallback := by
    rw [← Listener.isCallback_lasting, hf, Listener.isCallback_lasting]
  rw [IsCallback, IsCallback, kind?_modifyListener]
  by_cases hi : l = i
  · rw [if_pos hi, kind?]
    cases s.listener? l with
    | none => exact Iff.rfl
    | some x => simp [hc]
  · rw [if_neg hi]

/-- **Nobody is called**, and no callback comes. -/
structure Silent (s s' : Switchboard) : Prop where
  callbacks : ∀ l, s'.IsCallback l ↔ s.IsCallback l
  received : ∀ l, s.IsCallback l → received l s'.history = received l s.history

namespace Silent

theorem trans (h : Silent s s') (h' : Silent s' s'') : Silent s s'' :=
  ⟨fun l => (h'.callbacks l).trans (h.callbacks l), fun l hl =>
    (h'.received l ((h.callbacks l).2 hl)).trans (h.received l hl)⟩

theorem of_told (hc : ∀ l, s'.IsCallback l ↔ s.IsCallback l)
    (h : ∀ l, s.IsCallback l → Told l [] s s') : Silent s s' :=
  ⟨hc, fun l hl => (h l hl).received.trans (List.append_nil _)⟩

theorem of_alike (h : Alike s s') : Silent s s' :=
  .of_told (fun l => isCallback_congr (h.kind? l)) fun _ _ => .of_alike h

theorem refl (s : Switchboard) : Silent s s := of_alike (Alike.refl s)

theorem calls (h : Silent s s') (l : ListenerId) : s'.calls l = s.calls l := by
  rw [Switchboard.calls, Switchboard.calls]
  by_cases hl : s.IsCallback l
  · rw [if_pos hl, if_pos ((h.callbacks l).2 hl), h.received l hl]
  · rw [if_neg hl, if_neg fun hl' => hl ((h.callbacks l).1 hl')]

/-- Listeners may be changed, and the history has nothing to tell of it. -/
theorem modifyListener {f : Listener → Listener} (hf : ∀ x, (f x).lasting = x.lasting)
    (i : ListenerId) (s : Switchboard) : Silent s (s.modifyListener i f) :=
  ⟨fun _ => isCallback_modifyListener hf, fun _ _ => rfl⟩

theorem detach (topic : Text) (i : ListenerId) (s : Switchboard) : Silent s (s.detach topic i) :=
  ⟨fun _ => Iff.rfl, fun _ _ => rfl⟩

theorem ensure (topic : Text) (b : Bool) (s : Switchboard) : Silent s (s.ensure topic b) :=
  .of_told (fun l => isCallback_congr (kind?_ensure topic b s l)) fun _ _ => .ensure topic b s

theorem redefined (o : Operation) (s : Switchboard) : Silent s (s.redefined o) :=
  ⟨fun _ => Iff.rfl, fun _ _ => rfl⟩

/-- Writing a topic calls nobody before the value is handed out. -/
theorem written (o : Operation) (w : Writing) (s : Switchboard) :
    Silent s ((s.redefined o).written w) :=
  (redefined o s).trans
    (.of_told (fun l => isCallback_congr (kind?_ensure w.topic w.initial (s.redefined o) l))
      fun _ _ => .written w _)

theorem name (register : Register) (id : Text) (i : ListenerId) (s : Switchboard) :
    Silent s (s.name register id i) := ⟨fun _ => Iff.rfl, fun _ _ => rfl⟩

end Silent

/-- **Handing a value to who is no callback** calls nobody. -/
theorem Handed.silent (hi : ¬ s.IsCallback i) (h : Handed react value i s s') : Silent s s' := by
  refine .of_told (fun l => ?_) fun l hl => h.told_nothing hi hl
  cases h with
  | passed => exact Iff.rfl
  | called hx => exact absurd ⟨_, kind?_of_listener? hx, rfl⟩ hi
  | stored =>
    have halike := Alike.modifyListener (Listener.bare_store value) i (s.deliver i value)
    exact isCallback_congr (halike.kind? l)
  | queued => exact Iff.rfl
  | lost => exact Iff.rfl
  | dropped => exact isCallback_modifyListener Listener.lasting_close

/-- Those to whom a value is to be handed are there. -/
theorem Orderly.known_written (hs : Orderly s) (o : Operation) (w : Writing) :
    ∀ i ∈ s.attached w.topic, (((s.redefined o).written w).kind? i).isSome := by
  intro i hi
  obtain ⟨x, hx, -⟩ := hs.member hi
  have hkind : ((s.redefined o).written w).kind? i = s.kind? i :=
    kind?_ensure w.topic w.initial (s.redefined o) i
  rw [hkind, hx]
  rfl

/-! ## Calls in turn -/

/-- **Callbacks are called in turn** with a value: each of them finds what the one before has left,
and between them nobody is called. -/
inductive InTurn (react : React) (value : Bool) :
    List ListenerId → Switchboard → Switchboard → Prop
  | done {s s' : Switchboard} (h : Silent s s') : InTurn react value [] s s'
  | call {s m s' : Switchboard} {l : ListenerId} {ls : List ListenerId} (h : Silent s m)
      (hl : m.IsCallback l)
      (hr : InTurn react value ls (after (react l value) (m.deliver l value)) s') :
      InTurn react value (l :: ls) s s'

namespace InTurn

variable {ls : List ListenerId}

theorem after_silent (h : Silent s m) (h' : InTurn react value ls m s') :
    InTurn react value ls s s' := by
  cases h' with
  | done hm => exact .done (h.trans hm)
  | call hm hl hr => exact .call (h.trans hm) hl hr

theorem before_silent (h : InTurn react value ls s m) (h' : Silent m s') :
    InTurn react value ls s s' := by
  induction h with
  | done hm => exact .done (hm.trans h')
  | call hm hl _ ih => exact .call hm hl (ih h')

end InTurn

/-- **What is handed out** calls the callbacks among those it is handed to. -/
theorem inTurn_fanOut (hkeep : Keeping (fun _ _ => True) react) (value : Bool)
    {ls : List ListenerId}
    (hs : Orderly s) (hls : ∀ i ∈ ls, (s.kind? i).isSome) :
    InTurn react value (ls.filter fun i => s.IsCallback i) s (fanOut react value ls s) := by
  induction ls generalizing s with
  | nil => exact .done (.refl s)
  | cons i ls ih =>
    have hi := handed_handed react value (l := i) hs.listener?_ordinary
    obtain ⟨hs', hg, -⟩ := hi.proper kept_plain.admits hkeep hs
    have hknown : ∀ j ∈ ls, (s.kind? j).isSome := fun j hj => hls j (List.mem_cons_of_mem _ hj)
    have hrest := ih hs' fun j hj => hg.isSome (hknown j hj)
    -- whatever was done meanwhile, the same ones behind it are callbacks
    have hsame : (ls.filter fun j => (handed react value i s).IsCallback j)
        = ls.filter fun j => s.IsCallback j :=
      List.filter_congr fun j hj => decide_eq_decide.2 (hg.isCallback_iff (hknown j hj))
    rw [hsame] at hrest
    rw [fanOut_cons react value ls hs.listener?_ordinary]
    by_cases hc : s.IsCallback i
    · rw [List.filter_cons, if_pos (decide_eq_true hc)]
      exact .call (.refl s) hc (hrest.after_silent (.of_alike (hi.alike_called hc)))
    · rw [List.filter_cons, if_neg fun h => hc (of_decide_eq_true h)]
      exact hrest.after_silent (hi.silent hc)

/-- **A publication calls the callbacks** that are attached when it begins. -/
theorem inTurn_execute (hkeep : Keeping (fun _ _ => True) react) {w : Writing}
    (hw : o.writing? = some w) (hs : Orderly s) :
    InTurn react w.value (s.callbacks w.topic) s (after (execute react o) s) := by
  have hwritten : Silent s ((s.redefined o).written w) := .written o w s
  have hsame : ((s.attached w.topic).filter fun i => ((s.redefined o).written w).IsCallback i)
      = s.callbacks w.topic :=
    List.filter_congr fun i _ => decide_eq_decide.2 (hwritten.callbacks i)
  have hfan := inTurn_fanOut hkeep w.value ((hs.redefined o).written w) (hs.known_written o w)
  rw [hsame] at hfan
  have hnoted := (execute_effect react (Operation.isPlain_of_writing? hw) s).alike_of_writing hw
  exact (hfan.before_silent (.of_alike hnoted)).after_silent hwritten

/-! ## What deeds call a callback with -/

namespace Deed

/-- A deed lets a callback in, and this is its number. -/
def welcomes (l : ListenerId) (d : Deed) : Bool :=
  d.operation.entrance?.any fun e => e.listener.isCallback && d.found.listeners.length == l

/-- The value with which a deed calls the callback it lets in. -/
def welcome (d : Deed) : Bool :=
  d.operation.entrance?.elim false fun e => (d.found.entered e).value e.topic

/-- The value that a deed publishes to a callback, which is attached when the deed is begun. -/
def publishes? (l : ListenerId) (d : Deed) : Option Bool :=
  d.operation.writing?.bind fun w => if l ∈ d.found.callbacks w.topic then some w.value else none

theorem welcomes_of_entrance {e : Entrance} (h : o.entrance? = some e) :
    welcomes l ⟨o, s⟩ = true ↔ e.listener.isCallback ∧ s.listeners.length = l := by
  rw [welcomes, h, Option.any_some, Bool.and_eq_true, beq_iff_eq]

theorem welcomes_of_no_callback
    (h : ∀ e, o.entrance? = some e → e.listener.isCallback = false) (l : ListenerId)
    (s : Switchboard) : welcomes l ⟨o, s⟩ = false := by
  refine Bool.eq_false_iff.2 fun hw => ?_
  obtain ⟨e, he, -⟩ := (Option.any_eq_true _ _).1 hw
  exact Bool.false_ne_true ((h e he).symm.trans ((welcomes_of_entrance he).1 hw).1)

theorem publishes?_of_none (h : o.writing? = none) (l : ListenerId) (s : Switchboard) :
    publishes? l ⟨o, s⟩ = none := by
  rw [publishes?, h]
  rfl

theorem publishes?_of_writing {w : Writing} (h : o.writing? = some w) :
    publishes? l ⟨o, s⟩ = if l ∈ s.callbacks w.topic then some w.value else none := by
  rw [publishes?, h]
  rfl

end Deed

/-- How often deeds let a callback in under this number. -/
def comings (l : ListenerId) (ds : List Deed) : ℕ := (ds.filter (Deed.welcomes l)).length

/-- **What deeds call a callback with**: once when it is let in, and once for each publication. -/
def due (l : ListenerId) (ds : List Deed) : Multiset Bool :=
  ((ds.filter (Deed.welcomes l)).map Deed.welcome : List Bool) +
    (ds.filterMap (Deed.publishes? l) : List Bool)

theorem comings_append (l : ListenerId) (ds ds' : List Deed) :
    comings l (ds ++ ds') = comings l ds + comings l ds' := by
  rw [comings, List.filter_append, List.length_append, comings, comings]

theorem due_append (l : ListenerId) (ds ds' : List Deed) :
    due l (ds ++ ds') = due l ds + due l ds' := by
  simp only [due, List.filter_append, List.map_append, List.filterMap_append,
    ← Multiset.coe_add]
  exact add_add_add_comm _ _ _ _

theorem comings_singleton (l : ListenerId) (d : Deed) :
    comings l [d] = if d.welcomes l then 1 else 0 := by
  rw [comings, List.filter_cons]
  split <;> rfl

theorem due_singleton (l : ListenerId) (d : Deed) :
    due l [d]
      = (if d.welcomes l then {d.welcome} else 0) + ((d.publishes? l).toList : List Bool) := by
  rw [due, List.filter_cons]
  refine congrArg₂ _ ?_ (congrArg _ ?_)
  · split <;> rfl
  · cases h : d.publishes? l <;> simp [h]

/-- There is a callback of this number, or none. -/
def there (s : Switchboard) (l : ListenerId) : ℕ := if s.IsCallback l then 1 else 0

/-- **The books are right** about a callback: it was called with some more values, and came so
often. -/
structure Books (l : ListenerId) (values : Multiset Bool) (n : ℕ) (s s' : Switchboard) :
    Prop where
  calls : (s'.calls l : Multiset Bool) = s.calls l + values
  there : s'.there l = s.there l + n

namespace Books

variable {values values' : Multiset Bool} {n n' : ℕ}

theorem trans (h : Books l values n s s') (h' : Books l values' n' s' s'') :
    Books l (values + values') (n + n') s s'' :=
  ⟨by rw [h'.calls, h.calls, add_assoc], by rw [h'.there, h.there, add_assoc]⟩

theorem of_silent (h : Silent s s') : Books l 0 0 s s' := by
  refine ⟨?_, ?_⟩
  · rw [h.calls, add_zero]
  · rw [Switchboard.there, Switchboard.there, add_zero]
    exact if_congr (h.callbacks l) rfl rfl

/-- Nobody is called before. -/
theorem after_silent (h : Silent s m) (h' : Books l values n m s') : Books l values n s s' := by
  have hall := (of_silent (l := l) h).trans h'
  rwa [zero_add, zero_add] at hall

/-- Nobody is called after it. -/
theorem before_silent (h : Books l values n s m) (h' : Silent m s') : Books l values n s s' := by
  have hall := h.trans (of_silent h')
  rwa [add_zero, add_zero] at hall

/-- **A callback is called.** -/
theorem deliver (hi : s.IsCallback i) (value : Bool) :
    Books l (if i = l then {value} else 0) 0 s (s.deliver i value) := by
  refine ⟨?_, rfl⟩
  change ((if s.IsCallback l then _ else _ : List Bool) : Multiset Bool)
    = (if s.IsCallback l then _ else _ : List Bool) + _
  rw [Switchboard.deliver, received_append, received_handed]
  by_cases hl : i = l
  · subst hl
    rw [if_pos hi, if_pos hi, if_pos rfl, if_pos rfl, ← Multiset.coe_add, Multiset.coe_singleton]
  · rw [if_neg hl, if_neg hl, List.append_nil, add_zero]

/-- **A listener is let in**, and has not been called yet. -/
theorem entered (e : Entrance) (hs : Orderly s) :
    Books l 0 (if e.listener.isCallback ∧ s.listeners.length = l then 1 else 0) s
      (s.entered e) := by
  by_cases hl : s.listeners.length = l
  · subst hl
    have hnew : ¬ s.IsCallback s.listeners.length := fun h => h.ne_length rfl
    have hnothing : received s.listeners.length (s.entered e).history = [] := by
      refine (Told.ensure e.topic (s.first e) s).received.trans ?_
      rw [received_eq_nil hs (kind?_length s), List.append_nil]
    refine ⟨?_, ?_⟩
    · rw [Switchboard.calls, hnothing, ite_self, Switchboard.calls, if_neg hnew, add_zero]
    · rw [Switchboard.there, Switchboard.there, if_neg hnew, zero_add]
      exact if_congr ((isCallback_entered_self e s).trans (and_iff_left rfl).symm) rfl rfl
  · have hiff : (s.entered e).IsCallback l ↔ s.IsCallback l := by
      refine ⟨?_, fun h => h.grows (.entered e s)⟩
      rintro ⟨x, hx, hc⟩
      rcases kind?_entered hx with hx | ⟨he, -⟩
      · exact ⟨x, hx, hc⟩
      · exact absurd he.symm hl
    have hsame : received l (s.entered e).history = received l s.history :=
      (Told.entered e (Ne.symm hl)).received.trans (List.append_nil _)
    refine ⟨?_, ?_⟩
    · rw [add_zero, Switchboard.calls, Switchboard.calls, hsame]
      exact congrArg _ (if_congr hiff rfl rfl)
    · rw [if_neg fun h => hl h.2, Switchboard.there, Switchboard.there, add_zero]
      exact if_congr hiff rfl rfl

end Books

/-! ## The books -/

/-- **An operation calls nobody**: it neither writes a topic nor lets a callback in. -/
theorem books_aside (hw : o.writing? = none)
    (he : ∀ e, o.entrance? = some e → e.listener.isCallback = false) (h : Silent s s') :
    Books l (due l (⟨o, s⟩ :: tale.during react o s)) (comings l (⟨o, s⟩ :: tale.during react o s))
      s s' := by
  have hduring : tale.during react o s = [] := by
    cases hent : o.entrance? with
    | none => exact tale.during_of_idle hw hent s
    | some e =>
      rw [tale.during_of_entrance hent]
      refine tale.told_of_not_callback ?_ _
      rw [isCallback_entered_self, he e hent]
      exact Bool.false_ne_true
  rw [hduring, due_singleton, comings_singleton, Deed.welcomes_of_no_callback he,
    Deed.publishes?_of_none hw]
  exact .of_silent h

section

variable (hkeep : Keeping (fun _ _ => True) react)
  (htale : ∀ i value s, Orderly s →
    Books l (due l (tale i value s)) (comings l (tale i value s)) s (after (react i value) s))

include htale

theorem books_handed (hs : Orderly s) (value : Bool) (i : ListenerId) :
    Books l ((if i = l ∧ s.IsCallback i then {value} else 0) + due l (tale.told value i s))
      (comings l (tale.told value i s)) s (handed react value i s) := by
  have hi := handed_handed react value (l := i) hs.listener?_ordinary
  by_cases hc : s.IsCallback i
  · have hcall := (Books.deliver (l := l) hc value).trans
      (htale i value _ (hs.deliver hc.isSome value))
    rw [tale.told_of_callback hc, if_congr (and_iff_left hc) rfl rfl]
    rw [zero_add] at hcall
    exact hcall.before_silent (.of_alike (hi.alike_called hc))
  · rw [tale.told_of_not_callback hc, if_neg fun h => hc h.2, zero_add]
    exact .of_silent (hi.silent hc)

/-- **A listener is let in**, and the present value handed to it. -/
theorem books_entering {e : Entrance} (he : o.entrance? = some e) (hs : Orderly s)
    (h : Alike ((handed react ((s.entered e).value e.topic) s.listeners.length
      (s.entered e)).name e.register e.id s.listeners.length) s') :
    Books l (due l (⟨o, s⟩ :: tale.during react o s)) (comings l (⟨o, s⟩ :: tale.during react o s))
      s s' := by
  have hhanded := books_handed (l := l) htale (hs.entered he) ((s.entered e).value e.topic)
    s.listeners.length
  have hiff : s.listeners.length = l ∧ (s.entered e).IsCallback s.listeners.length ↔
      Deed.welcomes l ⟨o, s⟩ = true := by
    rw [Deed.welcomes_of_entrance he, isCallback_entered_self, and_comm]
  have hdeed : due l [⟨o, s⟩] = if s.listeners.length = l ∧
      (s.entered e).IsCallback s.listeners.length then {(s.entered e).value e.topic} else 0 := by
    rw [due_singleton, Deed.publishes?_of_none (Operation.writing?_of_entrance? he),
      Option.toList_none, Multiset.coe_nil, add_zero, if_congr hiff rfl rfl, Deed.welcome, he]
    rfl
  have hnew : comings l [⟨o, s⟩]
      = if e.listener.isCallback ∧ s.listeners.length = l then 1 else 0 := by
    rw [comings_singleton, if_congr (Deed.welcomes_of_entrance he) rfl rfl]
  have hall := (Books.entered (l := l) e hs).trans hhanded
  rw [zero_add] at hall
  rw [← List.singleton_append, due_append, comings_append, hdeed, hnew, tale.during_of_entrance he]
  exact hall.before_silent ((Silent.name _ _ _ _).trans (.of_alike h))

include hkeep

/-- A value is handed to listeners one after the other. -/
theorem books_fanOut (value : Bool) {ls : List ListenerId} (hls : ls.Nodup) (hs : Orderly s)
    (hknown : ∀ i ∈ ls, (s.kind? i).isSome) :
    Books l ((if l ∈ ls ∧ s.IsCallback l then {value} else 0)
        + due l (tale.toldAll react value ls s))
      (comings l (tale.toldAll react value ls s)) s (fanOut react value ls s) := by
  induction ls generalizing s with
  | nil => exact .of_silent (.refl s)
  | cons i ls ih =>
    obtain ⟨hi, hls⟩ := List.nodup_cons.1 hls
    obtain ⟨hs', hg, -⟩ := proper_handed kept_plain.admits hkeep value i s hs
    have hrest := ih hls hs' fun j hj => hg.isSome (hknown j (List.mem_cons_of_mem _ hj))
    have hboth := (books_handed htale hs value i).trans hrest
    -- the listener in front stands in the list once, and those behind it stay what they are
    have hsplit : (if l ∈ i :: ls ∧ s.IsCallback l then {value} else 0 : Multiset Bool)
        = (if i = l ∧ s.IsCallback i then {value} else 0)
          + if l ∈ ls ∧ (handed react value i s).IsCallback l then {value} else 0 := by
      by_cases hl : i = l
      · subst hl
        simp [hi]
      · by_cases hmem : l ∈ ls
        · simp [hl, hmem, hg.isCallback_iff (hknown l (List.mem_cons_of_mem _ hmem))]
        · simp [hl, Ne.symm hl, hmem]
    rw [fanOut_cons react value ls hs.listener?_ordinary, Tale.toldAll, due_append,
      comings_append, hsplit, add_add_add_comm]
    exact hboth

/-- **A topic is written**, and the value handed to everybody attached. -/
theorem books_writing {w : Writing} (hw : o.writing? = some w) (hs : Orderly s)
    (h : Alike (fanOut react w.value (s.attached w.topic) ((s.redefined o).written w)) s') :
    Books l (due l (⟨o, s⟩ :: tale.during react o s)) (comings l (⟨o, s⟩ :: tale.during react o s))
      s s' := by
  have hwritten : Silent s ((s.redefined o).written w) := .written o w s
  have hfan := books_fanOut (l := l) hkeep htale w.value (hs.nodup w.topic)
    ((hs.redefined o).written w) (hs.known_written o w)
  have hiff : l ∈ s.callbacks w.topic ↔
      l ∈ s.attached w.topic ∧ ((s.redefined o).written w).IsCallback l := by
    rw [mem_callbacks, hwritten.callbacks]
  have hdeed : due l [⟨o, s⟩] = if l ∈ s.attached w.topic ∧
      ((s.redefined o).written w).IsCallback l then {w.value} else 0 := by
    rw [due_singleton, Deed.welcomes_of_no_callback (Operation.no_callback_of_writing? hw),
      if_neg Bool.false_ne_true, zero_add, Deed.publishes?_of_writing hw, if_congr hiff rfl rfl]
    split <;> rfl
  have hnew : comings l [⟨o, s⟩] = 0 := by
    rw [comings_singleton, Deed.welcomes_of_no_callback (Operation.no_callback_of_writing? hw),
      if_neg Bool.false_ne_true]
  rw [← List.singleton_append, due_append, comings_append, hdeed, hnew, zero_add,
    tale.during_of_writing hw]
  exact (hfan.after_silent hwritten).before_silent (.of_alike h)

/-- **An operation is performed.** -/
theorem books_execute (ho : o.isPlain) (hs : Orderly s) :
    Books l (due l (⟨o, s⟩ :: tale.during react o s)) (comings l (⟨o, s⟩ :: tale.during react o s))
      s (after (execute react o) s) := by
  have heffect := execute_effect react ho s
  cases heffect with
  | unnoticed hi h =>
    refine books_aside hi.writing (fun e he => ?_) ((Silent.redefined o s).trans (.of_alike h))
    cases hi.entrance.symm.trans he
  | @ensured _ topic b _ he h =>
    refine books_aside (Operation.writing?_of_ensures? he) (fun e he' => ?_)
      ((Silent.ensure topic b s).trans (.of_alike h))
    cases (Operation.entrance?_of_ensures? he).symm.trans he'
  | @refused _ e _ he hr h =>
    refine books_aside (Operation.writing?_of_entrance? he) (fun e' he' => ?_)
      ((Silent.ensure e.topic (s.first e) s).trans (.of_alike h))
    obtain rfl := Option.some.inj (he.symm.trans he')
    exact Entrance.isCallback_of_observation he hr
  | @shut id i x topic _ hn hx _ ht h =>
    have hshut : Silent s ((s.modifyListener i (·.close)).detach topic i) :=
      (Silent.modifyListener Listener.lasting_close i s).trans (.detach topic i _)
    exact books_aside rfl nofun (hshut.trans (.of_alike h))
  | @unsubscribed id i x topic _ hn hx ht h =>
    exact books_aside rfl nofun ((Silent.detach topic i s).trans (.of_alike h))
  | writes hw h => exact books_writing hkeep htale hw hs h
  | enters he h => exact books_entering htale he hs h

end

/-- **By any account the books are right.** -/
theorem Account.books (h : Account s ds s') (hs : Orderly s) :
    Books l (due l ds) (comings l ds) s s' := by
  induction h with
  | done s => exact .of_silent (.refl s)
  | @rewrite s _ _ i f _ ih =>
    have hrewritten : Silent s (s.rewritten i f) :=
      .modifyListener (fun x => Listener.lasting_withScript (f x.script) x) i s
    exact (ih (hs.rewritten i f)).after_silent hrewritten
  | unnoticed ha _ ih => exact (ih (hs.alike ha)).after_silent (.of_alike ha)
  | @perform s _ ds react tale o ho hreact _ ihreact ih =>
    have hkeep : Keeping (fun _ _ => True) react := fun l value s => (hreact l value s).proper
    have hs' := ((execute_effect react ho s).orderly kept_plain.admits hkeep hs).1
    rw [due_append, comings_append]
    exact (books_execute hkeep ihreact ho hs).trans (ih hs')

/-! ## What deeds find -/

/-- **What a deed finds** is in order, and listeners last from then on, who was let in by the deed
included. -/
structure Found (d : Deed) (s : Switchboard) : Prop where
  orderly : Orderly d.found
  grows : Grows d.found s
  entered : ∀ e, d.operation.entrance? = some e → e.listener.isCallback →
    Grows (d.found.entered e) s

theorem Found.trans {d : Deed} (h : Found d s) (hg : Grows s s') : Found d s' :=
  ⟨h.orderly, h.grows.trans hg, fun e he hc => (h.entered e he hc).trans hg⟩

section

variable (hkeep : Keeping (fun _ _ => True) react)
  (htale : ∀ i value s, Orderly s → ∀ d ∈ tale i value s, Found d (after (react i value) s))

include htale

theorem found_told (hs : Orderly s) (value : Bool) (i : ListenerId) {d : Deed}
    (hd : d ∈ tale.told value i s) : Found d (handed react value i s) := by
  have hi := handed_handed react value (l := i) hs.listener?_ordinary
  by_cases hc : s.IsCallback i
  · rw [tale.told_of_callback hc] at hd
    exact (htale i value _ (hs.deliver hc.isSome value) d hd).trans (.of_alike (hi.alike_called hc))
  · rw [tale.told_of_not_callback hc] at hd
    cases hd

include hkeep

theorem found_toldAll (value : Bool) {ls : List ListenerId} (hs : Orderly s) {d : Deed}
    (hd : d ∈ tale.toldAll react value ls s) : Found d (fanOut react value ls s) := by
  induction ls generalizing s with
  | nil => cases hd
  | cons i ls ih =>
    have hs' := (proper_handed kept_plain.admits hkeep value i s hs).1
    rw [fanOut_cons react value ls hs.listener?_ordinary]
    rcases List.mem_append.1 hd with hd | hd
    · exact (found_told htale hs value i hd).trans
        (proper_fanOut kept_plain.admits hkeep value ls _ hs').2.1
    · exact ih hs' hd

/-- **An operation is performed**, and other deeds are done meanwhile. -/
theorem found_execute (ho : o.isPlain) (hs : Orderly s) {d : Deed}
    (hd : d ∈ ⟨o, s⟩ :: tale.during react o s) : Found d (after (execute react o) s) := by
  have heffect := execute_effect react ho s
  have hentrance {e : Entrance} (he : o.entrance? = some e) (hc : e.listener.isCallback) :
      Grows (handed react ((s.entered e).value e.topic) s.listeners.length (s.entered e))
        (after (execute react o) s) :=
    Grows.of_kind? (heffect.alike_of_entrance he hc).kind?
  rcases List.mem_cons.1 hd with rfl | hd
  · refine ⟨hs, (heffect.orderly kept_plain.admits hkeep hs).2, fun e he hc => ?_⟩
    exact (proper_handed kept_plain.admits hkeep _ _ _ (hs.entered he)).2.1.trans (hentrance he hc)
  · cases hw : o.writing? with
    | some w =>
      rw [tale.during_of_writing hw] at hd
      exact (found_toldAll hkeep htale w.value ((hs.redefined o).written w) hd).trans
        (.of_alike (heffect.alike_of_writing hw))
    | none =>
      cases he : o.entrance? with
      | none =>
        rw [tale.during_of_idle hw he] at hd
        cases hd
      | some e =>
        rw [tale.during_of_entrance he] at hd
        by_cases hc : e.listener.isCallback
        · exact (found_told htale (hs.entered he) _ _ hd).trans (hentrance he hc)
        · rw [tale.told_of_not_callback fun h => hc ((isCallback_entered_self e s).1 h)] at hd
          cases hd

end

/-- **Everything that was done was found in order**, and lasts. -/
theorem Account.found (h : Account s ds s') (hs : Orderly s) : ∀ d ∈ ds, Found d s' := by
  induction h with
  | done => nofun
  | rewrite i f _ ih => exact ih (hs.rewritten i f)
  | unnoticed ha _ ih => exact ih (hs.alike ha)
  | @perform s s' ds react tale o ho hreact hrest ihreact ih =>
    have hkeep : Keeping (fun _ _ => True) react := fun l value s => (hreact l value s).proper
    have hs' := ((execute_effect react ho s).orderly kept_plain.admits hkeep hs).1
    intro d hd
    rcases List.mem_append.1 hd with hd | hd
    · exact (found_execute hkeep ihreact ho hs hd).trans (hrest.proper hs').2.1
    · exact ih hs' d hd

/-! ## Runs -/

/-- **A deed that lets a callback in** is a subscription; it calls it with the value of its topic,
and the callback listens to this topic for ever. -/
theorem Found.subscribes {d : Deed} (h : Found d s) (hd : d.welcomes l = true) :
    ∃ id topic initial script, d.operation = .subscribe id topic initial script ∧
      d.welcome = d.found.present topic initial ∧
      ∃ x, s.kind? l = some x ∧ x.topic? = some topic := by
  obtain ⟨o, m⟩ := d
  obtain ⟨e, he, hboth⟩ := (Option.any_eq_true _ _).1 hd
  rw [Bool.and_eq_true, beq_iff_eq] at hboth
  obtain ⟨hc, rfl⟩ := hboth
  obtain ⟨x, hx, -⟩ := h.entered e he hc _ _ (kind?_entered_self e m)
  have htopic := (Grows.topic? (h.entered e he hc) (kind?_entered_self e m) hx).trans
    ((Listener.topic?_bare _).trans (Entrance.topic?_listener he))
  cases o with
  | subscribe id topic initial script =>
    obtain rfl := Option.some.inj he
    refine ⟨id, topic, initial, script, rfl, ?_, x, hx, htopic⟩
    change (m.entered _).value topic = _
    rw [value_eq, value?_entered, if_pos rfl]
    rfl
  | observe | observeAsync =>
    obtain rfl := Option.some.inj he
    cases hc
  | _ => cases he

/-- A callback is attached to the topic it listens to for ever. -/
theorem Found.topic_eq {d : Deed} (h : Found d s) {topic topic' : Text} {x : Listener}
    (hx : s.kind? l = some x) (ht : x.topic? = some topic) (hl : l ∈ d.found.attached topic') :
    topic' = topic := by
  obtain ⟨y, hy, hyt, -⟩ := h.orderly.member hl
  exact Option.some.inj (hyt.symm.trans ((Grows.topic? h.grows hy hx).symm.trans ht))

/-- **No call is lost, and none is made twice.**  Whatever callbacks do meanwhile, each publication,
also one made by a callback, calls those callbacks in turn that were attached to its topic when it
began, each of them once.  So after a run each callback was let in by one deed, and was called with
the value of its topic then and with what was published to this topic while it was attached, and
with nothing else. -/
theorem called_exactly {roster : Roster} {os : List Operation}
    (h : Run plain plain (ofRoster roster) os s) :
    (∃ ds, Account (ofRoster roster) ds s ∧ os.Sublist (ds.map Deed.operation)) ∧
      ∀ ds, Account (ofRoster roster) ds s →
        (∀ d ∈ ds, ∀ w, d.operation.writing? = some w → (d.found.callbacks w.topic).Nodup ∧
          ∀ react, Lawful plain react → InTurn react w.value (d.found.callbacks w.topic) d.found
            (after (execute react d.operation) d.found)) ∧
        ∀ l, s.IsCallback l → ∃ d id topic initial script,
          ds.filter (Deed.welcomes l) = [d] ∧
          d.operation = .subscribe id topic initial script ∧
          (∀ d' ∈ ds, ∀ topic', l ∈ d'.found.attached topic' → topic' = topic) ∧
          (received l s.history : Multiset Bool)
            = d.found.present topic initial ::ₘ (ds.filterMap (Deed.publishes? l) : List Bool) ∧
          (received l s.history).length = 1 + (ds.filterMap (Deed.publishes? l)).length := by
  refine ⟨h.account, fun ds hds => ?_⟩
  have hfound := hds.found (.ofRoster roster)
  refine ⟨fun d hd w hw => ?_, fun l hl => ?_⟩
  · have hs := (hfound d hd).orderly
    exact ⟨(hs.nodup w.topic).filter _, fun react hlaw =>
      inTurn_execute (kept_plain.lawful hlaw) hw hs⟩
  · have hbooks := hds.books (l := l) (.ofRoster roster)
    have hnobody : ¬ (ofRoster roster).IsCallback l := nofun
    have honce : (ds.filter (Deed.welcomes l)).length = 1 := by
      have hthere := hbooks.there
      rw [there, if_pos hl, there, if_neg hnobody, zero_add] at hthere
      exact hthere.symm
    obtain ⟨d, hd⟩ := List.length_eq_one_iff.1 honce
    obtain ⟨hmem, hwelcomes⟩ : d ∈ ds ∧ d.welcomes l = true := by
      rw [← List.mem_filter, hd]
      exact List.mem_cons_self
    obtain ⟨id, topic, initial, script, hsub, hvalue, x, hx, ht⟩ :=
      (hfound d hmem).subscribes hwelcomes
    have hcalls : (received l s.history : Multiset Bool)
        = d.found.present topic initial ::ₘ (ds.filterMap (Deed.publishes? l) : List Bool) := by
      have hall := hbooks.calls
      rw [calls, if_pos hl, calls, if_neg hnobody, due, hd, Multiset.coe_nil, zero_add] at hall
      rw [hall, ← hvalue]
      rfl
    refine ⟨d, id, topic, initial, script, hd, hsub, fun d' hd' topic' hl' =>
      (hfound d' hd').topic_eq hx ht hl', hcalls, ?_⟩
    have hcard := congrArg Multiset.card hcalls
    rw [Multiset.coe_card, Multiset.card_cons, Multiset.coe_card] at hcard
    rw [hcard, Nat.add_comm]

/-- Two callbacks that publish again that a topic is off when they are told that it is on: the
second one is called four times. -/
theorem called_exactly_again :
    let idle : React := fun _ _ => pure ()
    let s₁ := after (execute idle (.subscribe "a" "f" none [])) (ofRoster [])
    let s₂ := after (execute idle (.subscribe "b" "f" none [])) s₁
    let s₃ := after (execute (whenOn (.publish "f" false)) (.publish "f" true)) s₂
    received 1 s₃.history = [false, false, true, false] ∧
      ∃ ds, Account (ofRoster []) ds s₃ ∧ (ds.filterMap (Deed.publishes? 1)).length = 3 := by
  intro idle s₁ s₂ s₃
  have hw : Lawful plain (whenOn (.publish "f" false)) := lawful_whenOn fun _ => rfl
  have hrun : Run plain plain (ofRoster [])
      [.subscribe "a" "f" none [], .subscribe "b" "f" none [], .publish "f" true] s₃ :=
    .operate idle lawful_idle rfl (.operate idle lawful_idle rfl (.operate _ hw rfl (.done s₃)))
  have hreceived : received 1 s₃.history = [false, false, true, false] := by decide +kernel
  have hcallback : s₃.IsCallback 1 := by decide +kernel
  obtain ⟨⟨ds, hds, -⟩, hexact⟩ := called_exactly hrun
  obtain ⟨-, -, -, -, -, -, -, -, -, hlength⟩ := (hexact ds hds).2 1 hcallback
  rw [hreceived] at hlength
  exact ⟨hreceived, ds, hds, Nat.add_left_cancel hlength.symm⟩

end Switchboard

end FeatureFlags

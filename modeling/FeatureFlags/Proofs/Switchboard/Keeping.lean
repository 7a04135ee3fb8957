import FeatureFlags.Proofs.Switchboard.Attachment
import FeatureFlags.Proofs.Switchboard.Conduct

/-!
# Proofs/Switchboard/Keeping — what is kept by whatever is done

Order is kept by everything that can be done without recorders, callbacks included, so handing out a
value never fails; and any other relation of the switchboard before and the one after is kept if it
admits the elementary changes (`Admits`) and the allowed operations keep it, given that callbacks do
(`Kept`).  The step is one operation; the induction over nested callbacks and over runs is done
here, once.
-/

namespace FeatureFlags

namespace Switchboard

variable {react : React} {allowed : Operation → Switchboard → Prop} {s s' s'' : Switchboard}

/-- **A proper step**: order is kept, listeners last, and a relation holds. -/
def Proper (R : Switchboard → Switchboard → Prop) (s s' : Switchboard) : Prop :=
  Orderly s → Orderly s' ∧ Grows s s' ∧ R s s'

/-- Callbacks are proper, whatever they are called with. -/
abbrev Keeping (R : Switchboard → Switchboard → Prop) (react : React) : Prop :=
  ∀ l value, Keeps (Proper R) (react l value)

/-- **A relation admits the elementary changes** that come with handing out a value, and naming. -/
structure Admits (R : Switchboard → Switchboard → Prop) : Prop where
  trans : ∀ {s s' s''}, R s s' → R s' s'' → R s s''
  alike : ∀ {s s'}, Alike s s' → R s s'
  deliver : ∀ l value s, R s (s.deliver l value)
  drop : ∀ topic l s, R s ((s.modifyListener l (·.close)).detach topic l)
  name : ∀ register id l s, R s (s.name register id l)

section

variable {R : Switchboard → Switchboard → Prop} {value : Bool} {l : ListenerId} {o : Operation}

theorem Proper.refl (hR : Admits R) (s : Switchboard) : Proper R s s :=
  fun hs => ⟨hs, Std.Refl.refl s, hR.alike (Alike.refl s)⟩

theorem Proper.trans (hR : Admits R) (h : Proper R s s') (h' : Proper R s' s'') :
    Proper R s s'' := by
  intro hs
  obtain ⟨hs', hg, hr⟩ := h hs
  obtain ⟨hs'', hg', hr'⟩ := h' hs'
  exact ⟨hs'', hg.trans hg', hR.trans hr hr'⟩

theorem Proper.of_alike (hR : Admits R) (h : Alike s s') : Proper R s s' :=
  fun hs => ⟨hs.alike h, Grows.of_alike h, hR.alike h⟩

theorem Proper.deliver (hR : Admits R) {x : Listener} (hx : s.listener? l = some x)
    (value : Bool) : Proper R s (s.deliver l value) := by
  intro hs
  refine ⟨hs.deliver ?_ value, Grows.of_kind? fun _ => rfl, hR.deliver l value s⟩
  rw [kind?_of_listener? hx]
  rfl

/-! ## Handing -/

/-- **Handing a value to a listener is proper** if callbacks are. -/
theorem Handed.proper (hR : Admits R) (hreact : Keeping R react)
    (h : Handed react value l s s') : Proper R s s' := by
  cases h with
  | passed => exact .refl hR s
  | called hx h =>
    have hcall : Proper R s (after (react l value) (s.deliver l value)) :=
      (Proper.deliver hR hx value).trans hR (hreact l value _)
    rcases h with rfl | ⟨severity, message, rfl⟩
    · exact hcall
    · exact hcall.trans hR (.of_alike hR (Alike.record severity message _))
  | stored hx =>
    refine (Proper.deliver hR hx value).trans hR (.of_alike hR ?_)
    exact (Alike.modifyListener (Listener.bare_store value) l _).trans (Alike.wake l _)
  | queued hx =>
    exact (Proper.deliver hR hx value).trans hR (.of_alike hR (Alike.enqueue l value _))
  | lost hx => exact .deliver hR hx value
  | @dropped topic unread closed message hx =>
    refine Proper.trans hR (.of_alike hR (Alike.record .debug message s)) fun hs => ?_
    refine ⟨hs.close_detach (x := (Listener.inbox topic .closed unread closed).bare) ?_ rfl,
      Grows.close l _, hR.drop topic l _⟩
    exact kind?_of_listener? hx

theorem proper_handed (hR : Admits R) (hreact : Keeping R react) (value : Bool) (l : ListenerId)
    (s : Switchboard) : Proper R s (handed react value l s) := fun hs =>
  (handed_handed react value hs.listener?_ordinary).proper hR hreact hs

/-- What is handed to listeners one after the other. -/
theorem proper_fanOut (hR : Admits R) (hreact : Keeping R react) (value : Bool)
    (ls : List ListenerId) (s : Switchboard) : Proper R s (fanOut react value ls s) := by
  induction ls generalizing s with
  | nil =>
    rw [fanOut_nil]
    exact .refl hR s
  | cons l ls ih =>
    intro hs
    rw [fanOut_cons react value ls hs.listener?_ordinary]
    exact (proper_handed hR hreact value l s).trans hR (ih _) hs

/-- What becomes of a writing once it has been handed out. -/
theorem keeps_fanOut (hR : Admits R) (hreact : Keeping R react) (hs : Orderly s) {w : Writing}
    (h : R s ((s.redefined o).written w)) :
    R s (fanOut react w.value (s.attached w.topic) ((s.redefined o).written w)) :=
  hR.trans h (proper_fanOut hR hreact _ _ _ ((hs.redefined o).written w)).2.2

/-- What becomes of an entrance once the new listener has its first value. -/
theorem keeps_handed (hR : Admits R) (hreact : Keeping R react) (hs : Orderly s) {e : Entrance}
    (ho : o.entrance? = some e) (h : R s (s.entered e)) :
    R s (handed react ((s.entered e).value e.topic) s.listeners.length (s.entered e)) :=
  hR.trans h (proper_handed hR hreact _ _ _ (hs.entered ho)).2.2

/-! ## Operations -/

/-- **An operation keeps order, and listeners last**, if callbacks are proper. -/
theorem Effect.orderly (hR : Admits R) (hreact : Keeping R react) (h : Effect react s o s')
    (hs : Orderly s) : Orderly s' ∧ Grows s s' := by
  cases h with
  | unnoticed _ h => exact ⟨(hs.redefined o).alike h, Grows.of_kind? h.kind?⟩
  | ensured _ h =>
    exact ⟨(hs.ensure _ _).alike h, (Grows.of_kind? (kind?_ensure _ _ s)).trans (.of_alike h)⟩
  | refused _ _ h =>
    exact ⟨(hs.ensure _ _).alike h, (Grows.of_kind? (kind?_ensure _ _ s)).trans (.of_alike h)⟩
  | @shut id l x topic _ _ hx _ ht h =>
    refine ⟨(hs.close_detach (kind?_of_listener? hx) ?_).alike h,
      (Grows.close l s).trans (.of_kind? fun i => h.kind? i)⟩
    rwa [Listener.topic?_bare]
  | unsubscribed _ _ _ h => exact ⟨(hs.detach _ _).alike h, .of_kind? fun i => h.kind? i⟩
  | @writes _ w _ _ h =>
    have hw : Grows s ((s.redefined o).written w) :=
      Grows.of_kind? (kind?_ensure w.topic w.initial (s.redefined o))
    obtain ⟨hs', hg, -⟩ := proper_fanOut hR hreact w.value (s.attached w.topic) _
      ((hs.redefined o).written w)
    exact ⟨hs'.alike h, (hw.trans hg).trans (.of_alike h)⟩
  | @enters _ e _ ho h =>
    obtain ⟨hs', hg, -⟩ := proper_handed hR hreact ((s.entered e).value e.topic)
      s.listeners.length _ (hs.entered ho)
    obtain ⟨x, hx, hl⟩ := hg _ _ (kind?_entered_self e s)
    have hc : x.isCallback = e.listener.isCallback := by
      rw [← Listener.isCallback_lasting, hl, Listener.isCallback_lasting,
        Listener.isCallback_bare]
    refine ⟨(hs'.name hx ?_ ?_).alike h,
      ((Grows.entered e s).trans hg).trans (.of_kind? fun i => h.kind? i)⟩
    · rw [hc]
      exact Entrance.isCallback_of_subscription ho
    · rw [hc]
      exact Entrance.isCallback_of_observation ho

/-- **A relation admits what an operation does at its beginning**, where nothing is handed out. -/
structure Opens (R : Switchboard → Switchboard → Prop) (o : Operation) (s : Switchboard) :
    Prop where
  redefine : o.writing? = none → R s (s.redefined o)
  ensure : ∀ topic b, o.ensures? = some (topic, b) → R s (s.ensure topic b)
  refuse : ∀ e, o.entrance? = some e → R s (s.ensure e.topic (s.first e))
  detach : ∀ topic l, R s (s.detach topic l)

/-- **An operation keeps a relation** that admits how it opens and what comes of handing out. -/
theorem Effect.keeps (hR : Admits R) (hopen : Opens R o s)
    (hwrite : ∀ w, o.writing? = some w →
      R s (fanOut react w.value (s.attached w.topic) ((s.redefined o).written w)))
    (henter : ∀ e, o.entrance? = some e →
      R s (handed react ((s.entered e).value e.topic) s.listeners.length (s.entered e)))
    (h : Effect react s o s') : R s s' := by
  cases h with
  | unnoticed hi h => exact hR.trans (hopen.redefine hi.writing) (hR.alike h)
  | ensured ho h => exact hR.trans (hopen.ensure _ _ ho) (hR.alike h)
  | refused ho _ h => exact hR.trans (hopen.refuse _ ho) (hR.alike h)
  | shut _ _ _ _ h => exact hR.trans (hR.drop _ _ s) (hR.alike h)
  | unsubscribed _ _ _ h => exact hR.trans (hopen.detach _ _) (hR.alike h)
  | writes ho h => exact hR.trans (hwrite _ ho) (hR.alike h)
  | enters ho h => exact hR.trans (henter _ ho) (hR.trans (hR.name _ _ _ _) (hR.alike h))

/-! ## Everything that is done -/

/-- **A relation is kept by the allowed operations**, if callbacks keep it. -/
structure Kept (allowed : Operation → Switchboard → Prop)
    (R : Switchboard → Switchboard → Prop) : Prop where
  admits : Admits R
  rewrite : ∀ l f s, R s (s.rewritten l f)
  plain : ∀ {o s}, allowed o s → o.isPlain
  operate : ∀ {react o s}, Keeping R react → allowed o s → Orderly s →
    R s (after (execute react o) s)

namespace Kept

theorem execute (h : Kept allowed R) (hreact : Keeping R react) (ho : allowed o s) :
    Proper R s (after (execute react o) s) := by
  intro hs
  obtain ⟨hs', hg⟩ := (execute_effect react (h.plain ho) s).orderly h.admits hreact hs
  exact ⟨hs', hg, h.operate hreact ho hs⟩

/-- **Callbacks keep what operations keep.** -/
theorem conduct (h : Kept allowed R) (hc : Conduct allowed s s') : Proper R s s' := by
  have : Std.Refl (Proper R) := ⟨Proper.refl h.admits⟩
  have : Trans (Proper R) (Proper R) (Proper R) := ⟨Proper.trans h.admits⟩
  refine hc.keeps (fun l f s hs => ?_) h.execute
  exact ⟨hs.rewritten l f, Grows.rewritten l f s, h.rewrite l f s⟩

theorem lawful (h : Kept allowed R) (hreact : Lawful allowed react) : Keeping R react :=
  fun l value s => h.conduct (hreact l value s)

/-- **Runs keep what operations keep.** -/
theorem run (h : Kept allowed R) {os : List Operation} (hr : Run allowed allowed s os s') :
    Proper R s s' := by
  induction hr with
  | done s => exact .refl h.admits s
  | unnoticed ha _ ih => exact .trans h.admits (.of_alike h.admits ha) ih
  | operate react hreact ho _ ih => exact .trans h.admits (h.execute (h.lawful hreact) ho) ih

end Kept

end

/-- Order alone is kept by plain operations. -/
theorem kept_plain : Kept plain fun _ _ => True where
  admits := ⟨fun _ _ => trivial, fun _ => trivial, fun _ _ _ => trivial, fun _ _ _ => trivial,
    fun _ _ _ _ => trivial⟩
  rewrite _ _ _ := trivial
  plain := id
  operate _ _ _ := trivial

/-- **What plain operations come to is in order.** -/
theorem Reachable.orderly (h : Reachable plain s) : Orderly s := by
  obtain ⟨roster, os, hr⟩ := h
  exact (kept_plain.run hr (Orderly.ofRoster roster)).1

end Switchboard

end FeatureFlags

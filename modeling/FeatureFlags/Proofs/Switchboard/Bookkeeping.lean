import Mathlib.Data.Set.Card
import FeatureFlags.Proofs.Switchboard.Flags
import FeatureFlags.Proofs.Switchboard.Quiet

/-!
# Proofs/Switchboard/Bookkeeping — who is attached, told by what was done

A reader or an inbox that is closed bears a mark of it.  A callback bears none: that it was
unsubscribed is told only by what was done.  An account (`Account`) tells this, deed by deed, in the
order in which the operations were begun, those of callbacks among them, each with the switchboard
it found:

    publish f ──▸ callback ──▸ unsubscribe b ──▸ publish g ──▸ callback ──▸ close c ──▸ observe d

Every run has an account (`Run.account`).  By any account of it, a topic has those listeners that
listen to it, are not closed, and were not unsubscribed, each of them once (`attached_exactly`).
What keeps this right is proved for one elementary change after the other (`Tells`); the induction
is over the account.
-/

namespace FeatureFlags

namespace Switchboard

variable {react : React} {s s' s'' : Switchboard} {l i : ListenerId} {o : Operation}
  {value : Bool} {topic : Text}

/-! ## Accounts -/

/-- **A deed**: an operation that somebody performs, and the switchboard it finds. -/
structure Deed where
  operation : Operation
  found : Switchboard

/-- The deeds of callbacks, by what they are called with. -/
abbrev Tale := ListenerId → Bool → Switchboard → List Deed

namespace Tale

/-- The deeds of a listener that is handed a value. -/
def told (tale : Tale) (value : Bool) (l : ListenerId) (s : Switchboard) : List Deed :=
  if (s.kind? l).any Listener.isCallback then tale l value (s.deliver l value) else []

/-- The deeds of listeners that are handed a value one after the other. -/
def toldAll (tale : Tale) (react : React) (value : Bool) :
    List ListenerId → Switchboard → List Deed
  | [], _ => []
  | l :: ls, s => tale.told value l s ++ tale.toldAll react value ls (handed react value l s)

/-- The deeds of callbacks while an operation is performed. -/
def during (tale : Tale) (react : React) (o : Operation) (s : Switchboard) : List Deed :=
  match o.writing?, o.entrance? with
  | some w, _ =>
    tale.toldAll react w.value (s.attached w.topic) ((s.redefined o).written w)
  | none, some e => tale.told ((s.entered e).value e.topic) s.listeners.length (s.entered e)
  | none, none => []

variable (tale : Tale)

theorem during_of_idle (hw : o.writing? = none) (he : o.entrance? = none) (s : Switchboard) :
    tale.during react o s = [] := by
  rw [during, hw, he]

theorem during_of_writing {w : Writing} (h : o.writing? = some w) (s : Switchboard) :
    tale.during react o s
      = tale.toldAll react w.value (s.attached w.topic) ((s.redefined o).written w) := by
  rw [during, h]

theorem during_of_entrance {e : Entrance} (h : o.entrance? = some e) (s : Switchboard) :
    tale.during react o s
      = tale.told ((s.entered e).value e.topic) s.listeners.length (s.entered e) := by
  rw [during, Operation.writing?_of_entrance? h, h]

theorem told_of_callback (h : s.IsCallback l) (value : Bool) :
    tale.told value l s = tale l value (s.deliver l value) :=
  if_pos ((Option.any_eq_true _ _).2 h)

theorem told_of_not_callback (h : ¬ s.IsCallback l) (value : Bool) : tale.told value l s = [] :=
  if_neg fun hc => h ((Option.any_eq_true _ _).1 hc)

end Tale

/-- **An account of how a switchboard became what it is**: the operations in the order in which they
were begun, those of callbacks behind the one in which they are called.  Scripts are rewritten, and
what goes unnoticed happens, without a word. -/
inductive Account : Switchboard → List Deed → Switchboard → Prop
  | done (s : Switchboard) : Account s [] s
  | rewrite {s s' : Switchboard} {ds : List Deed} (l : ListenerId) (f : Script → Script)
      (h : Account (s.rewritten l f) ds s') : Account s ds s'
  | unnoticed {s s' s'' : Switchboard} {ds : List Deed} (ha : Alike s s')
      (h : Account s' ds s'') : Account s ds s''
  | perform {s s' : Switchboard} {ds : List Deed} (react : React) (tale : Tale) (o : Operation)
      (ho : o.isPlain)
      (hreact : ∀ l value s, Account s (tale l value s) (after (react l value) s))
      (h : Account (after (execute react o) s) ds s') :
      Account s (⟨o, s⟩ :: tale.during react o s ++ ds) s'

/-- **Callbacks can give an account** of what they do. -/
theorem Conduct.account (h : Conduct plain s s') : ∃ ds, Account s ds s' := by
  induction h with
  | done s => exact ⟨[], .done s⟩
  | rewrite l f _ ih =>
    obtain ⟨ds, h⟩ := ih
    exact ⟨ds, .rewrite l f h⟩
  | perform react o ho _ _ ihreact ih =>
    choose tale htale using ihreact
    obtain ⟨ds, h⟩ := ih
    exact ⟨_, .perform react tale o ho htale h⟩

/-- **Every run has an account**, in which its operations stand in their order. -/
theorem Run.account {os : List Operation} (h : Run plain plain s os s') :
    ∃ ds, Account s ds s' ∧ os.Sublist (ds.map Deed.operation) := by
  induction h with
  | done s => exact ⟨[], .done s, .refl []⟩
  | unnoticed ha _ ih =>
    obtain ⟨ds, h, hsub⟩ := ih
    exact ⟨ds, .unnoticed ha h, hsub⟩
  | operate react hreact ho _ ih =>
    choose tale htale using fun l value s => (hreact l value s).account
    obtain ⟨ds, h, hsub⟩ := ih
    refine ⟨_, .perform react tale _ ho htale h, ?_⟩
    rw [List.cons_append, List.map_cons, List.map_append]
    exact (hsub.trans (List.sublist_append_right _ _)).cons_cons _

/-- **What there is an account of is in order**, and listeners last. -/
theorem Account.proper {ds : List Deed} (h : Account s ds s') : Proper (fun _ _ => True) s s' := by
  have hR := kept_plain.admits
  induction h with
  | done s => exact .refl hR s
  | rewrite l f _ ih =>
    exact .trans hR (fun hs => ⟨hs.rewritten l f, Grows.rewritten l f _, trivial⟩) ih
  | unnoticed ha _ ih => exact .trans hR (.of_alike hR ha) ih
  | perform react tale o ho _ _ ihreact ih =>
    refine .trans hR (fun hs => ?_) ih
    obtain ⟨hs', hg⟩ := (execute_effect react ho _).orderly hR ihreact hs
    exact ⟨hs', hg, trivial⟩

/-! ## Who is attached -/

/-- A callback was unsubscribed. -/
def Ended (ds : List Deed) (l : ListenerId) : Prop :=
  ∃ d ∈ ds, d.found.Unsubscribes d.operation l

theorem ended_append {ds ds' : List Deed} : Ended (ds ++ ds') l ↔ Ended ds l ∨ Ended ds' l := by
  simp only [Ended, List.mem_append, or_and_right, exists_or]

theorem ended_singleton : Ended [⟨o, s⟩] l ↔ s.Unsubscribes o l := by
  simp only [Ended, List.mem_singleton, exists_eq_left]

/-- A listener of a topic that is not closed. -/
def Listens (s : Switchboard) (topic : Text) (l : ListenerId) : Prop :=
  ∃ x, s.kind? l = some x ∧ x.topic? = some topic ∧ x.closed = false

theorem listens_iff {x : Listener} (hx : s.listener? l = some x) :
    s.Listens topic l ↔ x.topic? = some topic ∧ x.closed = false := by
  rw [Listens, kind?_of_listener? hx]
  simp only [Option.some.injEq, exists_eq_left', Listener.topic?_bare, Listener.closed_bare]

theorem isCallback_iff {x : Listener} (hx : s.listener? l = some x) :
    s.IsCallback l ↔ x.isCallback = true := by
  rw [IsCallback, kind?_of_listener? hx]
  simp only [Option.some.injEq, exists_eq_left', Listener.isCallback_bare]

/-- **The tally is right**: attached to a topic is who listens to it and was not unsubscribed, and
only callbacks were. -/
structure Tallied (s : Switchboard) (ds : List Deed) : Prop where
  orderly : Orderly s
  ended : ∀ {l}, Ended ds l → s.IsCallback l
  attached : ∀ {topic l}, l ∈ s.attached topic ↔ s.Listens topic l ∧ ¬ Ended ds l

/-- **Deeds tell** how a switchboard became another one, for the tally to stay right. -/
def Tells (ds : List Deed) (s s' : Switchboard) : Prop :=
  ∀ ds₀, s.Tallied ds₀ → s'.Tallied (ds₀ ++ ds)

/-- Who is detached where it listens is attached no more; all others are. -/
theorem Orderly.mem_attached_detach (hs : Orderly s) {x : Listener} (hx : s.kind? l = some x)
    (ht : x.topic? = some topic) {t : Text} :
    i ∈ (s.detach topic l).attached t ↔ i ∈ s.attached t ∧ i ≠ l := by
  by_cases hi : i = l
  · subst hi
    exact iff_of_false (hs.not_mem_detach hx ht t) fun h => h.2 rfl
  · rw [(Told.detach hi topic s).attached t, and_iff_left hi]

/-- What does not touch topics and marks does not touch who listens. -/
theorem listens_modifyListener {f : Listener → Listener}
    (hf : ∀ x, (f x).topic? = x.topic? ∧ (f x).closed = x.closed) {t : Text} :
    (s.modifyListener l f).Listens t i ↔ s.Listens t i := by
  rw [Listens, Listens, kind?_modifyListener]
  by_cases hi : i = l
  · rw [if_pos hi, kind?]
    cases s.listener? i with
    | none => exact Iff.rfl
    | some x => simp [hf]
  · rw [if_neg hi]

/-- Who is closed, and no callback, does not listen any more; all others do. -/
theorem listens_close {x : Listener} (hx : s.listener? l = some x) (hc : x.isCallback = false)
    (ht : x.topic? = some topic) {t : Text} :
    (s.modifyListener l (·.close)).Listens t i ↔ s.Listens t i ∧ i ≠ l := by
  rw [Listens, Listens, kind?_modifyListener]
  by_cases hi : i = l
  · rw [if_pos hi, hi, hx]
    cases x with
    | callback => cases hc
    | recorder => cases ht
    | _ => simp [Listener.close, Listener.bare, Listener.closed]
  · rw [if_neg hi, and_iff_left hi]

theorem listens_entered {e : Entrance} (ho : o.entrance? = some e) {t : Text} :
    (s.entered e).Listens t i ↔ s.Listens t i ∨ t = e.topic ∧ i = s.listeners.length := by
  constructor
  · rintro ⟨x, hx, ht, hc⟩
    rcases kind?_entered hx with hx | ⟨hi, rfl⟩
    · exact .inl ⟨x, hx, ht, hc⟩
    · rw [Listener.topic?_bare, Entrance.topic?_listener ho] at ht
      exact .inr ⟨(Option.some.inj ht).symm, hi⟩
  · rintro (⟨x, hx, h⟩ | ⟨rfl, rfl⟩)
    · exact ⟨x, kind?_entered_of_some e hx, h⟩
    · refine ⟨_, kind?_entered_self e s, ?_, ?_⟩
      · rw [Listener.topic?_bare, Entrance.topic?_listener ho]
      · rw [Listener.closed_bare, Entrance.closed_listener ho]

namespace Tells

variable {ds ds' : List Deed}

theorem trans (h : Tells ds s s') (h' : Tells ds' s' s'') : Tells (ds ++ ds') s s'' := by
  intro ds₀ hs
  rw [← List.append_assoc]
  exact h' _ (h _ hs)

/-- Nothing is done, and nobody notices. -/
theorem of_views (ho : Orderly s → Orderly s') (hg : Grows s s')
    (hl : ∀ {t i}, s'.Listens t i ↔ s.Listens t i)
    (ha : ∀ t, s'.attached t = s.attached t) : Tells [] s s' := by
  intro ds₀ hs
  rw [List.append_nil]
  refine ⟨ho hs.orderly, fun h => (hs.ended h).grows hg, ?_⟩
  intro t i
  rw [ha, hl]
  exact hs.attached

theorem of_kind? (ho : Orderly s → Orderly s') (hk : ∀ i, s'.kind? i = s.kind? i)
    (ha : ∀ t, s'.attached t = s.attached t) : Tells [] s s' := by
  refine of_views ho (.of_kind? hk) (fun {t i} => ?_) ha
  rw [Listens, Listens, hk]

theorem of_alike (h : Alike s s') : Tells [] s s' :=
  of_kind? (fun hs => hs.alike h) h.kind? h.attached

theorem refl (s : Switchboard) : Tells [] s s := of_alike (Alike.refl s)

theorem ensure (topic : Text) (b : Bool) (s : Switchboard) : Tells [] s (s.ensure topic b) :=
  of_kind? (fun hs => hs.ensure topic b) (kind?_ensure topic b s)
    fun t => attached_ensure topic t b s

theorem written (w : Writing) (s : Switchboard) :
    Tells [] s ((s.redefined o).written w) := by
  refine of_kind? (fun hs => (hs.redefined o).written w) ?_ fun t => ?_
  · exact kind?_ensure w.topic w.initial (s.redefined o)
  · rw [Switchboard.written, attached_write, attached_ensure]
    rfl

theorem rewritten (l : ListenerId) (f : Script → Script) (s : Switchboard) :
    Tells [] s (s.rewritten l f) := by
  refine of_views (fun hs => hs.rewritten l f) (.rewritten l f s) ?_ fun _ => rfl
  refine listens_modifyListener fun x => ⟨?_, Listener.closed_withScript _ x⟩
  rw [← Listener.topic?_lasting, Listener.lasting_withScript, Listener.topic?_lasting]

theorem deliver (hl : (s.kind? l).isSome) (value : Bool) : Tells [] s (s.deliver l value) :=
  of_kind? (fun hs => hs.deliver hl value) (fun _ => rfl) fun _ => rfl

/-- A listener that enters was not unsubscribed before. -/
theorem entered {e : Entrance} (ho : o.entrance? = some e) (s : Switchboard) :
    Tells [] s (s.entered e) := by
  intro ds₀ hs
  rw [List.append_nil]
  refine ⟨hs.orderly.entered ho, fun h => (hs.ended h).grows (.entered e s), ?_⟩
  intro t i
  have hnew : ¬ Ended ds₀ s.listeners.length := fun h => (hs.ended h).ne_length rfl
  rw [listens_entered ho, attached_entered]
  by_cases ht : t = e.topic
  · rw [if_pos ht, List.mem_append, List.mem_singleton, hs.attached, or_and_right]
    refine or_congr_right ⟨fun hi => ⟨⟨ht, hi⟩, hi ▸ hnew⟩, fun h => h.1.2⟩
  · rw [if_neg ht, hs.attached]
    simp only [ht, false_and, or_false]

/-- Who is closed is detached with it. -/
theorem close_detach {x : Listener} (hx : s.listener? l = some x) (hc : x.isCallback = false)
    (ht : x.topic? = some topic) :
    Tells [] s ((s.modifyListener l (·.close)).detach topic l) := by
  intro ds₀ hs
  have hk := kind?_of_listener? hx
  have ht' : x.bare.topic? = some topic := (Listener.topic?_bare x).trans ht
  rw [List.append_nil]
  refine ⟨hs.orderly.close_detach hk ht', fun h => (hs.ended h).grows (.close l s), ?_⟩
  intro t i
  change i ∈ (s.detach topic l).attached t ↔ (s.modifyListener l (·.close)).Listens t i ∧ _
  rw [hs.orderly.mem_attached_detach hk ht', listens_close hx hc ht, hs.attached]
  tauto

/-- **Who is shut**, and no callback, is detached with it. -/
theorem closing {x : Listener} (hx : s.listener? l = some x) (hc : x.isCallback = false)
    (hr : x.isRecorder = false) : Tells [] s (s.closing l x) := by
  obtain ⟨topic, ht⟩ : ∃ topic, x.topic? = some topic := by
    cases x with
    | callback => cases hc
    | recorder => cases hr
    | _ => exact ⟨_, rfl⟩
  rw [Switchboard.closing, ht]
  exact (close_detach hx hc ht).trans (.of_alike ⟨rfl, rfl, rfl, rfl, rfl⟩)

/-- An operation that unsubscribes nobody. -/
theorem deed (h : Orderly s → ∀ l, ¬ s.Unsubscribes o l) : Tells [⟨o, s⟩] s s := by
  intro ds₀ hs
  have hended {l : ListenerId} : Ended (ds₀ ++ [⟨o, s⟩]) l ↔ Ended ds₀ l := by
    rw [ended_append, ended_singleton]
    exact or_iff_left (h hs.orderly l)
  refine ⟨hs.orderly, fun he => hs.ended (hended.1 he), ?_⟩
  intro t i
  rw [hended]
  exact hs.attached

/-- **Who is unsubscribed** is detached. -/
theorem unsubscribe {id : Text} {x : Listener} (hn : s.named? .subscription id = some l)
    (hx : s.listener? l = some x) (ht : x.topic? = some topic) :
    Tells [⟨.unsubscribe id, s⟩] s (s.detach topic l) := by
  intro ds₀ hs
  have hk := kind?_of_listener? hx
  have ht' : x.bare.topic? = some topic := (Listener.topic?_bare x).trans ht
  have hended {i : ListenerId} : Ended (ds₀ ++ [⟨.unsubscribe id, s⟩]) i ↔ Ended ds₀ i ∨ i = l := by
    rw [ended_append, ended_singleton]
    refine or_congr_right ⟨?_, ?_⟩
    · rintro ⟨id', he, hn'⟩
      obtain rfl : id = id' := of_decide_eq_true he
      exact Option.some.inj (hn'.symm.trans hn)
    · rintro rfl
      exact ⟨id, decide_eq_true rfl, hn⟩
  refine ⟨hs.orderly.detach topic l, fun he => ?_, ?_⟩
  · rcases hended.1 he with he | rfl
    · exact hs.ended he
    · exact hs.orderly.subscription hn
  · intro t i
    rw [hs.orderly.mem_attached_detach hk ht', hended, hs.attached, not_or, and_assoc]
    exact Iff.rfl

end Tells

/-! ## The tally stays right -/

section

variable {tale : Tale} (hkeep : Keeping (fun _ _ => True) react)
  (htale : ∀ l value s, Tells (tale l value s) s (after (react l value) s))

include htale

/-- A value is handed to a listener. -/
theorem Handed.tells (h : Handed react value l s s') : Tells (tale.told value l s) s s' := by
  by_cases hl : s.IsCallback l
  · rw [tale.told_of_callback hl]
    have hcall := ((Tells.deliver hl.isSome value).trans (htale l value _)).trans
      (.of_alike (h.alike_called hl))
    rwa [List.nil_append, List.append_nil] at hcall
  · rw [tale.told_of_not_callback hl]
    have hdeliver {x : Listener} (hx : s.listener? l = some x) : Tells [] s (s.deliver l value) :=
      .deliver (by rw [kind?_of_listener? hx]; rfl) value
    cases h with
    | passed => exact .refl s
    | called hx => exact absurd ⟨_, kind?_of_listener? hx, rfl⟩ hl
    | stored hx =>
      exact (hdeliver hx).trans (.of_alike
        ((Alike.modifyListener (Listener.bare_store value) l _).trans (Alike.wake l _)))
    | queued hx => exact (hdeliver hx).trans (.of_alike (Alike.enqueue l value _))
    | lost hx => exact hdeliver hx
    | @dropped topic unread closed message hx =>
      exact (Tells.of_alike (Alike.record .debug message s)).trans
        (.close_detach (x := .inbox topic .closed unread closed) hx rfl rfl)

theorem tells_handed (value : Bool) (l : ListenerId) (s : Switchboard) :
    Tells (tale.told value l s) s (handed react value l s) := fun ds₀ hs =>
  (handed_handed react value hs.orderly.listener?_ordinary).tells htale ds₀ hs

/-- A value is handed to listeners one after the other. -/
theorem tells_fanOut (value : Bool) (ls : List ListenerId) (s : Switchboard) :
    Tells (tale.toldAll react value ls s) s (fanOut react value ls s) := by
  induction ls generalizing s with
  | nil => exact .refl s
  | cons l ls ih =>
    intro ds₀ hs
    rw [fanOut_cons react value ls hs.orderly.listener?_ordinary]
    exact (tells_handed htale value l s).trans (ih _) ds₀ hs

include hkeep

/-- **An operation is performed.** -/
theorem tells_execute (ho : o.isPlain) (s : Switchboard) :
    Tells (⟨o, s⟩ :: tale.during react o s) s (after (execute react o) s) := by
  intro ds₀ hs
  have heffect := execute_effect react ho s
  have ho' := (heffect.orderly kept_plain.admits hkeep hs.orderly).1
  -- all operations but those that unsubscribe somebody
  have hdeed {s' : Switchboard} {ds : List Deed} (hends : ∀ id, o ≠ .unsubscribe id)
      (h : Tells ds s s') : Tells (⟨o, s⟩ :: ds) s s' := by
    refine Tells.trans (.deed fun _ l => ?_) h
    rintro ⟨id, he, -⟩
    exact hends id (Operation.eq_unsubscribe_of_ends he)
  cases heffect with
  | unnoticed hi h =>
    rw [tale.during_of_idle hi.writing hi.entrance]
    refine Tells.trans (.deed fun hs l => ?_) ?_ ds₀ hs
    · rintro ⟨id, he, hn⟩
      obtain ⟨x, hx, ht⟩ := IsCallback.topic? (hs.subscription hn)
      exact ht (hi.unsubscribes (Operation.eq_unsubscribe_of_ends he) hn hx)
    · exact (Tells.of_kind? (fun hs => hs.redefined o) (fun _ => rfl) fun _ => rfl).trans
        (.of_alike h)
  | @ensured _ topic b _ he h =>
    rw [tale.during_of_idle (Operation.writing?_of_ensures? he)
      (Operation.entrance?_of_ensures? he)]
    exact hdeed (by rintro id rfl; cases he) ((Tells.ensure topic b s).trans (.of_alike h)) ds₀ hs
  | @refused _ e _ he hr h =>
    have hl : ¬ (s.entered e).IsCallback s.listeners.length := by
      rintro ⟨x, hx, hc⟩
      rw [kind?_entered_self] at hx
      obtain rfl := Option.some.inj hx
      rw [Listener.isCallback_bare, Entrance.isCallback_of_observation he hr] at hc
      cases hc
    rw [tale.during_of_entrance he, tale.told_of_not_callback hl]
    exact hdeed (by rintro id rfl; cases he)
      ((Tells.ensure e.topic (s.first e) s).trans (.of_alike h)) ds₀ hs
  | @shut id l x topic _ hn hx _ ht h =>
    obtain ⟨y, hy, hc⟩ := hs.orderly.observation hn
    obtain rfl : x.bare = y := Option.some.inj ((kind?_of_listener? hx).symm.trans hy)
    rw [Listener.isCallback_bare] at hc
    exact hdeed (fun _ => nofun) ((Tells.close_detach hx hc ht).trans (.of_alike h)) ds₀ hs
  | unsubscribed hn hx ht h => exact (Tells.unsubscribe hn hx ht).trans (.of_alike h) ds₀ hs
  | @writes _ w _ hw h =>
    rw [tale.during_of_writing hw]
    have hall := ((Tells.written (o := o) w s).trans
      (tells_fanOut htale w.value (s.attached w.topic) _)).trans (.of_alike h)
    rw [List.nil_append, List.append_nil] at hall
    exact hdeed (by rintro id rfl; cases hw) hall ds₀ hs
  | @enters _ e _ he h =>
    rw [tale.during_of_entrance he]
    have hall := (Tells.entered he s).trans
      (tells_handed htale ((s.entered e).value e.topic) s.listeners.length _)
    have hlast := hall.trans (.of_kind? (fun _ => ho') h.kind? h.attached)
    rw [List.nil_append, List.append_nil] at hlast
    exact hdeed (by rintro id rfl; cases he) hlast ds₀ hs

end

/-- **By any account the tally stays right.** -/
theorem Account.tells {ds : List Deed} (h : Account s ds s') : Tells ds s s' := by
  induction h with
  | done s => exact .refl s
  | rewrite l f _ ih => exact (Tells.rewritten l f _).trans ih
  | unnoticed ha _ ih => exact (Tells.of_alike ha).trans ih
  | perform react tale o ho hreact _ ihreact ih =>
    exact (tells_execute (fun l value s => (hreact l value s).proper) ihreact ho _).trans ih

theorem tallied_ofRoster (roster : Roster) : (ofRoster roster).Tallied [] where
  orderly := .ofRoster roster
  ended := nofun
  attached {_ _} := ⟨nofun, fun h => nomatch h.1⟩

/-! ## Who should be attached -/

/-- **Who should be attached** to a topic: its readers and inboxes that are not closed, and its
callbacks that were not unsubscribed. -/
def Live (s : Switchboard) (ds : List Deed) (topic : Text) (l : ListenerId) : Prop :=
  match s.listener? l with
  | some (.callback _ t _) => t = topic ∧ ¬ Ended ds l
  | some (.reader t _ closed) => t = topic ∧ closed = false
  | some (.inbox t _ _ closed) => t = topic ∧ closed = false
  | _ => False

theorem Tallied.mem_attached_iff {ds : List Deed} (h : s.Tallied ds) :
    l ∈ s.attached topic ↔ s.Live ds topic l := by
  have hended (hn : ¬ s.IsCallback l) : ¬ Ended ds l := fun he => hn (h.ended he)
  rw [h.attached, Live]
  cases hx : s.listener? l with
  | none => simp [Listens, kind?, hx]
  | some x =>
    rw [isCallback_iff hx] at hended
    rw [listens_iff hx]
    cases x with
    | callback => simp [Listener.topic?, Listener.closed]
    | recorder => simp [Listener.topic?]
    | _ => simp [Listener.topic?, Listener.closed, hended Bool.false_ne_true]

/-- As many are attached as there are live ones. -/
theorem Tallied.length_attached {ds : List Deed} (h : s.Tallied ds) (topic : Text) :
    (s.attached topic).length = {l | s.Live ds topic l}.ncard := by
  have hset : {l | s.Live ds topic l} = ((s.attached topic).toFinset : Set ListenerId) := by
    ext l
    rw [List.coe_toFinset, Set.mem_ofPred_eq, Set.mem_ofPred_eq, h.mem_attached_iff]
  rw [hset, Set.ncard_coe_finset, List.toFinset_card_of_nodup (h.orderly.nodup topic)]

/-- Counting the listeners of a topic. -/
theorem outcome_count (react : React) (topic : Text) (s : Switchboard) :
    outcome (execute react (.count topic)) s = .ok (.number (s.attached topic).length) := by
  rw [← attached_ensure topic topic false s]
  rfl

/-! ## Closing and unsubscribing, once and again -/

/-- What there is of signals and listeners is the same. -/
structure Untouched (s s' : Switchboard) : Prop where
  signals : ∀ topic, s'.signal? topic = s.signal? topic
  listeners : s'.listeners = s.listeners

/-- Detaching who is not attached. -/
theorem untouched_detach (h : l ∉ s.attached topic) : Untouched s (s.detach topic l) := by
  refine ⟨fun t => ?_, rfl⟩
  rw [detach, signal?_adjust]
  by_cases ht : t = topic
  · subst ht
    rw [if_pos rfl]
    cases hs : s.signal? t with
    | none => rfl
    | some signal =>
      rw [attached, hs] at h
      exact congrArg some (congrArg (Signal.mk signal.value) (List.erase_of_not_mem h))
  · rw [if_neg ht]

/-- Detaching takes a listener from wherever it is attached. -/
theorem Orderly.attached_detach (hs : Orderly s) {x : Listener} (hx : s.listener? l = some x)
    (ht : x.topic? = some topic) (t : Text) :
    (s.detach topic l).attached t = (s.attached t).erase l := by
  rw [Switchboard.attached_detach]
  by_cases he : t = topic
  · rw [if_pos he]
  · rw [if_neg he, List.erase_of_not_mem]
    intro hl
    obtain ⟨y, hy, hyt, -⟩ := hs.member hl
    obtain rfl := Option.some.inj ((kind?_of_listener? hx).symm.trans hy)
    rw [Listener.topic?_bare, ht] at hyt
    exact he (Option.some.inj hyt).symm

variable {id : Text} {x : Listener}

theorem after_unsubscribe (react : React) (hn : s.named? .subscription id = some l)
    (hx : s.listener? l = some x) (ht : x.topic? = some topic) :
    after (execute react (.unsubscribe id)) s = s.detach topic l := by
  have htopic : (s.listener? l).bind Listener.topic? = some topic := by rw [hx]; exact ht
  simp only [execute, unsubscribe, bind_assoc, after_get_bind, hn, htopic, after_modify_bind]
  rfl

theorem after_close_eq_shut (hn : s.named? .observation id = some l) :
    after (execute react (.close id)) s = after (shut l) s := by
  rw [after, execute, run_withNamed, hn]
  simp only [run_bind, run_shut, run_pure, after]

theorem after_close (react : React) (hn : s.named? .observation id = some l)
    (hx : s.listener? l = some x) :
    after (execute react (.close id)) s = if x.closed then s else s.closing l x := by
  rw [after_close_eq_shut hn, after, run_shut, hx]

variable {ds : List Deed}

/-- **Closing takes the observation away**, and nobody else; what is closed is closed in vain. -/
theorem Tallied.close (h : s.Tallied ds) (react : React) (hn : s.named? .observation id = some l) :
    (∀ t, (after (execute react (.close id)) s).attached t = (s.attached t).erase l) ∧
      ((s.listener? l).any Listener.closed → after (execute react (.close id)) s = s) := by
  obtain ⟨y, hy, hcall⟩ := h.orderly.observation hn
  obtain ⟨x, hx, rfl⟩ := Option.map_eq_some_iff.1 hy
  have hplain := h.orderly.ordinary hy
  rw [Listener.isCallback_bare] at hcall
  rw [Listener.isRecorder_bare] at hplain
  cases hc : x.closed with
  | true =>
    have hsame : after (execute react (.close id)) s = s := by
      rw [after_close react hn hx, if_pos hc]
    refine ⟨fun t => ?_, fun _ => hsame⟩
    rw [hsame, List.erase_of_not_mem]
    intro hl
    have hopen := ((listens_iff hx).1 (h.attached.1 hl).1).2
    rw [hc] at hopen
    cases hopen
  | false =>
    obtain ⟨topic, ht⟩ : ∃ topic, x.topic? = some topic := by
      cases x with
      | callback => cases hcall
      | recorder => cases hplain
      | _ => exact ⟨_, rfl⟩
    refine ⟨fun t => ?_, fun hclosed => ?_⟩
    · rw [after_close react hn hx, if_neg (Bool.eq_false_iff.1 hc), closing, ht]
      exact h.orderly.attached_detach hx ht t
    · rw [hx, Option.any_some, hc] at hclosed
      cases hclosed

/-- **Unsubscribing takes the callback away**, and nobody else; who was unsubscribed is unsubscribed
in vain. -/
theorem Tallied.unsubscribe (h : s.Tallied ds) (react : React)
    (hn : s.named? .subscription id = some l) :
    (∀ t, (after (execute react (.unsubscribe id)) s).attached t = (s.attached t).erase l) ∧
      (Ended ds l → Untouched s (after (execute react (.unsubscribe id)) s)) := by
  obtain ⟨x, hx, ht⟩ := IsCallback.topic? (h.orderly.subscription hn)
  obtain ⟨topic, ht⟩ := Option.ne_none_iff_exists'.1 ht
  rw [after_unsubscribe react hn hx ht]
  refine ⟨h.orderly.attached_detach hx ht, fun he => untouched_detach fun hl => ?_⟩
  exact (h.attached.1 hl).2 he

/-! ## Runs -/

/-- **The bookkeeping is exact.**  Whatever callbacks do meanwhile, after a run a topic has attached
to it each of its readers and inboxes that is not closed, and each of its callbacks that was not
unsubscribed, once, and nobody else; so the count of those attached is the number of the live ones.
Closing or unsubscribing takes away the one it is meant for, leaves all others in their order, and
does nothing when it is done again. -/
theorem attached_exactly {roster : Roster} {os : List Operation}
    (h : Run plain plain (ofRoster roster) os s) :
    (∃ ds, Account (ofRoster roster) ds s ∧ os.Sublist (ds.map Deed.operation)) ∧
      ∀ ds, Account (ofRoster roster) ds s →
        (∀ topic, (s.attached topic).Nodup ∧ ∀ l, l ∈ s.attached topic ↔ s.Live ds topic l) ∧
        (∀ react topic, outcome (execute react (.count topic)) s
          = .ok (.number {l | s.Live ds topic l}.ncard)) ∧
        (∀ react id l, s.named? .observation id = some l →
          (∀ t, (after (execute react (.close id)) s).attached t = (s.attached t).erase l) ∧
          ((s.listener? l).any Listener.closed → after (execute react (.close id)) s = s)) ∧
        ∀ react id l, s.named? .subscription id = some l →
          (∀ t, (after (execute react (.unsubscribe id)) s).attached t
            = (s.attached t).erase l) ∧
          (Ended ds l → Untouched s (after (execute react (.unsubscribe id)) s)) := by
  refine ⟨h.account, fun ds hds => ?_⟩
  have htally : s.Tallied ds := hds.tells [] (tallied_ofRoster roster)
  refine ⟨fun topic => ⟨htally.orderly.nodup topic, fun l => htally.mem_attached_iff⟩, ?_,
    fun react id l hn => htally.close react hn, fun react id l hn => htally.unsubscribe react hn⟩
  intro react topic
  rw [outcome_count, htally.length_attached]

/-- A callback unsubscribes another one when it is called, an inbox is let in whose loop is closed,
and a reader is closed twice. -/
theorem attached_exactly_busy :
    let idle : React := fun _ _ => pure ()
    let s₁ := after (execute idle (.subscribe "a" "f" none [])) (ofRoster [])
    let s₂ := after (execute idle (.subscribe "b" "f" none [])) s₁
    let s₃ := after (execute idle (.observe "o" "f" none)) s₂
    let s₄ := after (execute idle (.observeAsync "i" "f" none .closed)) s₃
    let s₅ := after (execute (whenOn (.unsubscribe "b")) (.publish "f" true)) s₄
    let s₆ := after (execute idle (.close "o")) s₅
    let s₇ := after (execute idle (.close "o")) s₆
    s₅.attached "f" = [0, 2] ∧ s₇.attached "f" = [0] ∧
      ∃ ds, Account (ofRoster []) ds s₇ ∧ Ended ds 1 ∧ {l | s₇.Live ds "f" l}.ncard = 1 := by
  intro idle s₁ s₂ s₃ s₄ s₅ s₆ s₇
  have hw : Lawful plain (whenOn (.unsubscribe "b")) := lawful_whenOn fun _ => rfl
  have hrun : Run plain plain (ofRoster []) [.subscribe "a" "f" none [], .subscribe "b" "f" none [],
      .observe "o" "f" none, .observeAsync "i" "f" none .closed, .publish "f" true, .close "o",
      .close "o"] s₇ :=
    .operate idle lawful_idle rfl (.operate idle lawful_idle rfl (.operate idle lawful_idle rfl
      (.operate idle lawful_idle rfl (.operate _ hw rfl (.operate idle lawful_idle rfl
        (.operate idle lawful_idle rfl (.done s₇)))))))
  have hattached : s₇.attached "f" = [0] := by decide +kernel
  obtain ⟨⟨ds, hds, -⟩, hexact⟩ := attached_exactly hrun
  obtain ⟨-, hcount, -⟩ := hexact ds hds
  refine ⟨by decide +kernel, hattached, ds, hds, ?_, ?_⟩
  · have htally := hds.tells [] (tallied_ofRoster [])
    have hany : (s₇.kind? 1).any fun x => x.topic? = some ("f" : Text) ∧ x.closed = false := by
      decide +kernel
    obtain ⟨x, hx, hopen⟩ := (Option.any_eq_true _ _).1 hany
    refine not_not.1 fun he => absurd (htally.attached.2 ⟨⟨x, hx, of_decide_eq_true hopen⟩, he⟩) ?_
    rw [hattached]
    decide
  · have hn := Answer.number.inj (Except.ok.inj
      ((hcount idle "f").symm.trans (outcome_count idle "f" s₇)))
    rw [hn, hattached]
    rfl

end Switchboard

end FeatureFlags

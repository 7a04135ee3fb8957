import FeatureFlags.Proofs.Switchboard.Transition

/-!
# Proofs/Switchboard/Effect — what is seen of an operation

Most statements do not care what listeners have not read, nor for jobs, waits and records.  Up to
these, an operation that puts no recorder to use has one of seven effects (`execute_effect`): it
goes unnoticed but for the flags, makes sure of a signal, is refused after that, closes a listener,
unsubscribes one, writes a topic and hands the value to everybody attached, or lets a new listener
in and hands it the present value.  What is true of all operations is proved by these cases.
-/

namespace FeatureFlags

namespace Switchboard

variable {α β : Type} {react : React} {s s' : Switchboard}

/-! ## Actions that go unnoticed -/

/-- **An action goes unnoticed**: it leaves a switchboard that looks the same. -/
abbrev Unnoticed (a : Action α) : Prop := Keeps Alike a

/-- Records are not noticed. -/
theorem Keeps.unnoticed {a : Action α} (h : Keeps Recorded a) : Unnoticed a := fun s => (h s).alike

theorem unnoticed_note (severity : Severity) (message : Text) : Unnoticed (note severity message) :=
  (recorded_note severity message).unnoticed

theorem unnoticed_supportsLevel (topic : Text) (level : Int) :
    Unnoticed (supportsLevel topic level) := (recorded_supportsLevel topic level).unnoticed

theorem unnoticed_supportsVersion (topic version : Text) :
    Unnoticed (supportsVersion topic version) := (recorded_supportsVersion topic version).unnoticed

theorem unnoticed_ask (q : Query) : Unnoticed (ask q) := (recorded_ask q).unnoticed

theorem unnoticed_takeUnread (l : ListenerId) : Unnoticed (takeUnread l) :=
  .of_getListener fun _ =>
    .of_bind (.of_modify (Alike.modifyListener Listener.bare_take l)) fun _ => .of_pure _

theorem unnoticed_isClosed (l : ListenerId) : Unnoticed (isClosed l) :=
  .of_getListener fun _ => .of_pure _

theorem unnoticed_next (l : ListenerId) : Unnoticed (next l) := by
  refine .of_bind (unnoticed_isClosed l) fun b => ?_
  cases b with
  | true => exact .of_pure _
  | false =>
    refine .of_bind (unnoticed_takeUnread l) fun unread => ?_
    cases unread <;> exact .of_pure _

/-! ## The effect of an operation -/

/-- **What an operation does**, whatever callbacks do meanwhile. -/
inductive Effect (react : React) (s : Switchboard) : Operation → Switchboard → Prop
  | unnoticed {o s'} (ho : Idle o s) (h : Alike (s.redefined o) s') : Effect react s o s'
  | ensured {o topic b s'} (ho : o.ensures? = some (topic, b)) (h : Alike (s.ensure topic b) s') :
      Effect react s o s'
  | refused {o e s'} (ho : o.entrance? = some e) (hr : e.register = .observation)
      (h : Alike (s.ensure e.topic (s.first e)) s') : Effect react s o s'
  | shut {id l x topic s'} (hn : s.named? .observation id = some l) (hx : s.listener? l = some x)
      (hc : x.closed = false) (ht : x.topic? = some topic)
      (h : Alike ((s.modifyListener l (·.close)).detach topic l) s') :
      Effect react s (.close id) s'
  | unsubscribed {id l x topic s'} (hn : s.named? .subscription id = some l)
      (hx : s.listener? l = some x) (ht : x.topic? = some topic) (h : Alike (s.detach topic l) s') :
      Effect react s (.unsubscribe id) s'
  | writes {o w s'} (ho : o.writing? = some w)
      (h : Alike (fanOut react w.value (s.attached w.topic) ((s.redefined o).written w)) s') :
      Effect react s o s'
  | enters {o e s'} (ho : o.entrance? = some e)
      (h : Alike ((handed react ((s.entered e).value e.topic) s.listeners.length
        (s.entered e)).name e.register e.id s.listeners.length) s') :
      Effect react s o s'

/-- **A transition is seen as an effect.** -/
theorem Transition.effect {o : Operation} (h : Transition react s o s') : Effect react s o s' := by
  cases h with
  | idle ho _ h => exact .unnoticed ho h.alike
  | read hr h =>
    have hidle : Idle o s := by
      cases o with
      | poll | next => exact ⟨rfl, rfl, rfl, nofun, nofun⟩
      | _ => cases hr
    have hflags : s.redefined o = s := by
      cases o with
      | poll | next => rfl
      | _ => cases hr
    refine .unnoticed hidle ?_
    rw [hflags]
    rcases h with rfl | ⟨rfl, -⟩
    · exact Alike.modifyListener Listener.bare_take _ s
    · exact Alike.refl _
  | loopClosed hn =>
    exact .unnoticed ⟨rfl, rfl, rfl, nofun, nofun⟩
      (Alike.modifyListener Listener.bare_closeLoop _ s)
  | @shut id l x hn hx hc =>
    cases ht : x.topic? with
    | none =>
      refine .unnoticed ⟨rfl, rfl, rfl, nofun, fun | rfl => ?_⟩ (alike_closing hx ht)
      intro hn' hx' _
      obtain rfl := Option.some.inj (hn.symm.trans hn')
      obtain rfl := Option.some.inj (hx.symm.trans hx')
      exact ht
    | some topic =>
      refine .shut hn hx hc ht ?_
      rw [closing, ht]
      exact ⟨rfl, rfl, rfl, rfl, rfl⟩
  | unsubscribed hn hx ht => exact .unsubscribed hn hx ht (Alike.refl _)
  | ensured ho => exact .ensured ho (Alike.refl _)
  | refused ho hr => exact .refused ho hr (Alike.refl _)
  | writes ho h => exact .writes ho h.alike
  | enters ho => exact .enters ho (Alike.refl _)

/-- **Every operation that puts no recorder to use has one of these effects.** -/
theorem execute_effect (react : React) {o : Operation} (ho : o.isPlain) (s : Switchboard) :
    Effect react s o (after (execute react o) s) := (execute_transition react ho s).effect

end Switchboard

end FeatureFlags

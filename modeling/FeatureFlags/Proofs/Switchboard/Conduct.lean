import FeatureFlags.Proofs.Switchboard.Effect

/-!
# Proofs/Switchboard/Conduct — what callbacks may do, and what can come of it

A callback may do anything that can be done with a switchboard: it performs operations one after
the other, chosen by whatever it sees, and callbacks called meanwhile do the same.  `Conduct` is
this as a relation of the switchboard a callback finds and the one it leaves; its derivations are
the finite trees of operations.  Whether the callback then fails is not asked.

What operations are allowed is a parameter, and may depend on the moment.

    Run         operations from outside, one after the other, and what goes unnoticed between them
    Moment      whenever somebody has control: between operations, when a callback is called, and
                when an operation that a callback performs has come to its end
-/

namespace FeatureFlags

namespace Switchboard

variable {allowed : Operation → Switchboard → Prop} {react : React} {s s' s'' : Switchboard}

/-- The script of a listener rewritten. -/
def rewritten (l : ListenerId) (f : Script → Script) (s : Switchboard) : Switchboard :=
  s.modifyListener l fun x => x.withScript (f x.script)

/-! ## Callbacks -/

/-- **What a callback may make of a switchboard**: it rewrites scripts and performs operations that
are allowed, while other callbacks, called meanwhile, do no more than that. -/
inductive Conduct (allowed : Operation → Switchboard → Prop) : Switchboard → Switchboard → Prop
  | done (s : Switchboard) : Conduct allowed s s
  | rewrite {s s' : Switchboard} (l : ListenerId) (f : Script → Script)
      (h : Conduct allowed (s.rewritten l f) s') : Conduct allowed s s'
  | perform {s s' : Switchboard} (react : React) (o : Operation) (ho : allowed o s)
      (hreact : ∀ l value s, Conduct allowed s (after (react l value) s))
      (h : Conduct allowed (after (execute react o) s) s') : Conduct allowed s s'

/-- **Callbacks are lawful** if each of them, whenever it is called, makes of the switchboard what
it may. -/
def Lawful (allowed : Operation → Switchboard → Prop) (react : React) : Prop :=
  ∀ l value, Keeps (Conduct allowed) (react l value)

namespace Conduct

theorem trans (h : Conduct allowed s s') (h' : Conduct allowed s' s'') : Conduct allowed s s'' := by
  induction h with
  | done => exact h'
  | rewrite l f _ ih => exact .rewrite l f (ih h')
  | perform react o ho hreact _ _ ih => exact .perform react o ho hreact (ih h')

instance : Std.Refl (Conduct allowed) := ⟨done⟩

instance : Trans (Conduct allowed) (Conduct allowed) (Conduct allowed) := ⟨trans⟩

/-- **What every operation keeps, callbacks keep**, however deep they are nested. -/
theorem keeps {R : Switchboard → Switchboard → Prop} [Std.Refl R] [Trans R R R]
    (hrewrite : ∀ l f s, R s (s.rewritten l f))
    (hperform : ∀ {react o s}, (∀ l value, Keeps R (react l value)) → allowed o s →
      R s (after (execute react o) s))
    (h : Conduct allowed s s') : R s s' := by
  induction h with
  | done s => exact Std.Refl.refl s
  | rewrite l f _ ih => exact Trans.trans (hrewrite l f _) ih
  | perform react o ho _ _ ihreact ih => exact Trans.trans (hperform ihreact ho) ih

end Conduct

/-- Any operation is allowed that puts no recorder to use. -/
def plain (o : Operation) (_ : Switchboard) : Prop := o.isPlain

/-- No operation is allowed: all that a callback may do is to fail. -/
def quiet (_ : Operation) (_ : Switchboard) : Prop := False

/-- Only closing is allowed: a callback closes observations, or fails. -/
def mild (o : Operation) (_ : Switchboard) : Prop := ∃ id, o = .close id

/-- Who does what is allowed does what more allows. -/
theorem Conduct.mono {allowed' : Operation → Switchboard → Prop}
    (hle : ∀ {o s}, allowed o s → allowed' o s) (h : Conduct allowed s s') :
    Conduct allowed' s s' := by
  induction h with
  | done s => exact .done s
  | rewrite l f _ ih => exact .rewrite l f ih
  | perform react o ho _ _ ihreact ih => exact .perform react o (hle ho) ihreact ih

theorem Lawful.mono {allowed' : Operation → Switchboard → Prop}
    (hle : ∀ {o s}, allowed o s → allowed' o s) (h : Lawful allowed react) :
    Lawful allowed' react := fun l value s => (h l value s).mono hle

theorem Lawful.plain_of_quiet (h : Lawful quiet react) : Lawful plain react := h.mono False.elim

theorem Lawful.mild_of_quiet (h : Lawful quiet react) : Lawful mild react := h.mono False.elim

theorem Lawful.plain_of_mild (h : Lawful mild react) : Lawful plain react :=
  h.mono fun ⟨_, ho⟩ => by rw [ho]; rfl

/-- Callbacks that do nothing are lawful. -/
theorem lawful_idle : Lawful allowed fun _ _ => pure () := fun _ _ s => .done s

/-- Callbacks that only fail are lawful. -/
theorem lawful_throw (e : Failure) : Lawful allowed fun _ _ => throw e := fun _ _ s => .done s

/-- Callbacks that perform an operation whenever they receive that a topic is on. -/
def whenOn (o : Operation) : React
  | _, true => do
    let _ ← execute (fun _ _ => pure ()) o
  | _, false => return

theorem after_whenOn (o : Operation) (l : ListenerId) (s : Switchboard) :
    after (whenOn o l true) s = after (execute (fun _ _ => pure ()) o) s := by
  rw [whenOn, after_bind_pure]

theorem lawful_whenOn {o : Operation} (ho : ∀ s, allowed o s) : Lawful allowed (whenOn o) := by
  intro l value s
  cases value with
  | false => exact .done s
  | true =>
    refine .perform _ o (ho s) lawful_idle ?_
    rw [after_whenOn]
    exact .done _

/-! ## Runs -/

/-- **A run**: operations that are allowed, in order, each with lawful callbacks of its own, and
between them what goes unnoticed, such as turns of the event loop.  What callbacks are allowed is
apart from what is allowed outside. -/
inductive Run (outside inside : Operation → Switchboard → Prop) :
    Switchboard → List Operation → Switchboard → Prop
  | done (s : Switchboard) : Run outside inside s [] s
  | unnoticed {s s' s'' : Switchboard} {os : List Operation} (h : Alike s s')
      (hr : Run outside inside s' os s'') : Run outside inside s os s''
  | operate {s s' : Switchboard} {o : Operation} {os : List Operation} (react : React)
      (hreact : Lawful inside react) (ho : outside o s)
      (hr : Run outside inside (after (execute react o) s) os s') :
      Run outside inside s (o :: os) s'

/-- **A switchboard that some run comes to**, where callbacks are allowed what is allowed
outside. -/
def Reachable (allowed : Operation → Switchboard → Prop) (s : Switchboard) : Prop :=
  ∃ roster os, Run allowed allowed (ofRoster roster) os s

namespace Run

variable {outside inside : Operation → Switchboard → Prop} {os os' : List Operation}

theorem trans (h : Run outside inside s os s') (h' : Run outside inside s' os' s'') :
    Run outside inside s (os ++ os') s'' := by
  induction h with
  | done => exact h'
  | unnoticed ha _ ih => exact .unnoticed ha (ih h')
  | operate react hreact ho _ ih => exact .operate react hreact ho (ih h')

end Run

/-- One more operation. -/
theorem Reachable.operate (h : Reachable allowed s) (hreact : Lawful allowed react) {o : Operation}
    (ho : allowed o s) : Reachable allowed (after (execute react o) s) := by
  obtain ⟨roster, os, hr⟩ := h
  exact ⟨roster, os ++ [o], hr.trans (.operate react hreact ho (.done _))⟩

theorem reachable_ofRoster (roster : Roster) : Reachable allowed (ofRoster roster) :=
  ⟨roster, [], .done _⟩

/-! ## Moments -/

/-- **An operation calls a callback**, which then finds the switchboard as it is here: those who
were to receive the value before it have received it. -/
inductive Calls (react : React) (o : Operation) (s : Switchboard) : Switchboard → Prop
  | told {w : Writing} {passed rest : List ListenerId} {l : ListenerId} {x : Listener}
      (ho : o.writing? = some w) (hl : s.attached w.topic = passed ++ l :: rest)
      (hx : (fanOut react w.value passed ((s.redefined o).written w)).listener? l = some x)
      (hc : x.isCallback) :
      Calls react o s ((fanOut react w.value passed ((s.redefined o).written w)).deliver l w.value)
  | entered {e : Entrance} (ho : o.entrance? = some e) (hc : e.listener.isCallback) :
      Calls react o s
        ((s.entered e).deliver s.listeners.length ((s.entered e).value e.topic))

/-- **A moment**: somebody outside or a callback has control and may perform operations. -/
inductive Moment (allowed : Operation → Switchboard → Prop) : Switchboard → Prop
  | start (roster : Roster) : Moment allowed (ofRoster roster)
  | unnoticed {s s' : Switchboard} (h : Moment allowed s) (ha : Alike s s') : Moment allowed s'
  | performed {s : Switchboard} {react : React} {o : Operation} (h : Moment allowed s)
      (hreact : Lawful allowed react) (ho : allowed o s) :
      Moment allowed (after (execute react o) s)
  | called {s s' : Switchboard} {react : React} {o : Operation} (h : Moment allowed s)
      (hreact : Lawful allowed react) (ho : allowed o s) (hc : Calls react o s s') :
      Moment allowed s'

end Switchboard

end FeatureFlags

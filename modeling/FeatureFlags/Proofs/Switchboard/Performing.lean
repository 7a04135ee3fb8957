import FeatureFlags.Proofs.Switchboard.Conduct
import FeatureFlags.Proofs.Switchboard.Scripts

/-!
# Proofs/Switchboard/Performing — callbacks that follow their scripts are lawful

When operations are performed, callbacks follow their scripts.  Where all scripts are within what is
allowed, what a callback makes of the switchboard by this is a `Conduct`, to whatever depth
(`performs_performTo`).  So performing operations one after the other is a run (`run_performAll`),
and what holds of all runs holds of what is performed.

Elsewhere to follow a script need not be lawful.  There a guarded callback does nothing; it is
lawful without condition, and where it matters it does the same.
-/

namespace FeatureFlags

namespace Switchboard

variable {p : Operation → Bool} {s s' : Switchboard}

/-! ## Following scripts -/

section

variable {allowed : Operation → Switchboard → Prop} {perform : Operation → Action Answer}

/-- **Performing is lawful** if all that is done, where scripts are within what is allowed, is to
carry out the operation with lawful callbacks. -/
def Performs (allowed : Operation → Switchboard → Prop) (p : Operation → Bool)
    (perform : Operation → Action Answer) : Prop :=
  ∀ {o s}, Script.within p o.script → s.within p → ∃ react, Lawful allowed react ∧
    (perform o).run s = (execute react o).run s ∧ (after (perform o) s).within p

/-- What a callback may make of a switchboard where all scripts are within what is allowed. -/
def ConductWithin (allowed : Operation → Switchboard → Prop) (p : Operation → Bool)
    (s s' : Switchboard) : Prop :=
  s.within p → Conduct allowed s s' ∧ s'.within p

instance : Std.Refl (ConductWithin allowed p) := ⟨fun s hs => ⟨.done s, hs⟩⟩

instance : Trans (ConductWithin allowed p) (ConductWithin allowed p) (ConductWithin allowed p) where
  trans h h' hs := by
    obtain ⟨hc, hs'⟩ := h hs
    obtain ⟨hc', hs''⟩ := h' hs'
    exact ⟨hc.trans hc', hs''⟩

/-- A callback that does nothing unless all scripts are within what is allowed. -/
def guarded (p : Operation → Bool) (react : React) : React := fun l value => do
  if (← get).within p then react l value

/-- A trigger that acts is within what its listener's script comes to. -/
theorem within_trigger? (hs : s.within p) {l : ListenerId} {i : Nat} {t : Trigger}
    (ht : s.trigger? l i = some t) : t.within p := by
  obtain ⟨x, hx, hi⟩ := Option.bind_eq_some_iff.1 ht
  have hscript : Script.within p x.script := within_iff.1 hs x (List.mem_of_getElem? hx)
  exact Script.within_iff.1 hscript t (List.mem_of_getElem? hi)

theorem within_spend (hs : s.within p) (l : ListenerId) (i : Nat) : (s.spend l i).within p := by
  refine within_modifyListener hs l fun x hx => ?_
  have h := Script.within_spent hx i
  cases x with
  | callback | recorder => exact h
  | _ => exact hx

variable (hp : ∀ o s, p o → allowed o s) (hperform : Performs allowed p perform)

include hp hperform

/-- **Following a script is a conduct**: each trigger is used up, and what it does is performed. -/
theorem keeps_follow (l : ListenerId) (value : Bool) :
    Keeps (ConductWithin allowed p) (follow perform l value) := by
  refine .of_getListener fun x => .of_forM (fun i => ?_) _
  intro s hs
  rw [after_get_bind]
  cases ht : s.trigger? l i with
  | none => exact ⟨.done s, hs⟩
  | some t =>
    dsimp only
    split
    · rw [after_modify_bind]
      have hspend := within_spend hs l i
      cases t with
      | fail => exact ⟨.rewrite l (·.modify i (·.spent)) (.done _), hspend⟩
      | perform awaited left o =>
        have ho : o.within p := within_trigger? hs ht
        rw [Operation.within_eq, Bool.and_eq_true] at ho
        obtain ⟨react, hreact, heq, hw⟩ := hperform ho.2 hspend
        have hafter : after (perform o) (s.spend l i) = after (execute react o) (s.spend l i) :=
          congrArg Prod.snd heq
        rw [act, after_bind_pure]
        refine ⟨.rewrite l (·.modify i (·.spent)) (.perform react o (hp o _ ho.1) hreact ?_), hw⟩
        rw [hafter]
        exact .done _
    · exact ⟨.done s, hs⟩

theorem lawful_guarded : Lawful allowed (guarded p (follow perform)) := by
  intro l value s
  rw [guarded, after_get_bind]
  split
  · exact (keeps_follow hp hperform l value s ‹_›).1
  · exact .done s

theorem alongside_guarded (l : ListenerId) (value : Bool) :
    Alongside p (follow perform l value) (guarded p (follow perform) l value) := by
  intro s hs
  refine ⟨?_, (keeps_follow hp hperform l value s hs).2⟩
  change _ = (if s.within p then follow perform l value else pure ()).run s
  rw [if_pos hs]

end

section

variable {allowed outside : Operation → Switchboard → Prop} (hp : ∀ o s, p o → allowed o s)

/-- The depth to which an operation is performed is the budget of all scripts. -/
theorem execute_reaction (s : Switchboard) (more : Nat) (o : Operation) :
    execute (s.reaction more) o = performTo (s.budget + more) o := by
  rw [reaction]
  generalize s.budget + more = depth
  cases depth <;> rfl

include hp

/-- **Performing to any depth is lawful.** -/
theorem performs_performTo (depth : Nat) : Performs allowed p (performTo depth) := by
  induction depth with
  | zero =>
    intro o s ho hs
    obtain ⟨heq, hw⟩ := alongside_execute (fun _ _ => .of_pure ()) ho s hs
    exact ⟨fun _ _ => pure (), lawful_idle, heq, hw⟩
  | succ depth ih =>
    intro o s ho hs
    obtain ⟨heq, hw⟩ := alongside_execute (alongside_guarded hp ih) ho s hs
    exact ⟨guarded p (follow (performTo depth)), lawful_guarded hp ih, heq, hw⟩

/-- **Performing is lawful.** -/
theorem performs_perform : Performs allowed p perform := by
  intro o s ho hs
  have h : (perform o).run s = (performTo (s.budget + o.budget) o).run s := by
    simp only [perform, run_bind, run_get, execute_reaction]
  rw [after, h]
  exact performs_performTo hp _ ho hs

/-- What performing operations one after the other leaves, whether they fail or not. -/
def performAll (os : List Operation) (s : Switchboard) : Switchboard :=
  os.foldl (fun s o => after (perform o) s) s

/-- **Performing operations one after the other is a run**, if all that their scripts come to is
allowed to callbacks. -/
theorem run_performAll {os : List Operation}
    (hos : ∀ o ∈ os, Script.within p o.script ∧ ∀ s, outside o s) (hs : s.within p) :
    Run outside allowed s os (performAll os s) := by
  induction os generalizing s with
  | nil => exact .done s
  | cons o os ih =>
    obtain ⟨⟨ho, hout⟩, hos⟩ := List.forall_mem_cons.1 hos
    obtain ⟨react, hreact, heq, hw⟩ := performs_perform hp ho hs
    have hafter : after (perform o) s = after (execute react o) s := congrArg Prod.snd heq
    refine .operate react hreact (hout s) ?_
    change Run outside allowed _ os (performAll os (after (perform o) s))
    rw [← hafter]
    exact ih hos hw

end

/-- **Performing plain operations**, whose scripts are plain through and through, comes to what is
reachable. -/
theorem reachable_performAll (roster : Roster) {os : List Operation}
    (hos : ∀ o ∈ os, o.within Operation.isPlain) :
    Reachable plain (performAll os (ofRoster roster)) := by
  refine ⟨roster, os, run_performAll (fun _ _ h => h) (fun o ho => ?_) rfl⟩
  have h := hos o ho
  rw [Operation.within_eq, Bool.and_eq_true] at h
  exact ⟨h.2, fun _ => h.1⟩

/-- Performing plain operations whose callbacks have nothing in their scripts but failures. -/
theorem run_performAll_quiet (roster : Roster) {os : List Operation}
    (hos : ∀ o ∈ os, o.isPlain ∧ Script.within (fun _ => false) o.script) :
    Run plain quiet (ofRoster roster) os (performAll os (ofRoster roster)) :=
  run_performAll (fun _ _ h => absurd h Bool.false_ne_true)
    (fun o ho => ⟨(hos o ho).2, fun _ => (hos o ho).1⟩) rfl

end Switchboard

end FeatureFlags

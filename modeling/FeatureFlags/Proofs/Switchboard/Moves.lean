import FeatureFlags.Proofs.Switchboard.Bookkeeping

/-!
# Proofs/Switchboard/Moves — whatever may happen, in any order

A move is an operation with its callbacks, a turn of the event loop, or something that is done with
a listener or a wait by whoever holds it: a wait is begun, has its turn at once, or is given up, and
an observation is closed.  Also, where an action runs may change, and what is recorded.  Moves are
fair if callbacks do nothing but fail, only readers are polled, nobody waits at a listener that is
not there, and nobody gives up a wait that is over; they are mild if callbacks may close
observations as well.

Readings are what moves read from readers and inboxes; the log of some moves is the list of them,
each with the switchboard in which it was made.
-/

namespace FeatureFlags

/-- The truth value that is answered, if it is one. -/
def Answer.value? : Answer → Option Bool
  | .truth b => some b
  | _ => none

/-- The value a wait is over with, if it is over with one. -/
def Wait.value? : Wait → Option Bool
  | ⟨_, .over value⟩ => value
  | _ => none

namespace Switchboard

/-- **A move.** -/
inductive Move where
  | operate (react : React) (o : Operation)
  | turn
  | hasten (w : WaitId)
  | wait (l : ListenerId)
  | abandon (w : WaitId)
  | shut (l : ListenerId)
  | place (onWorker : Bool)
  | record (records : List Record)

/-- **A reading**: from whom a value was read, the value, if there was one, and the switchboard in
which this was. -/
structure Reading where
  listener : ListenerId
  value : Option Bool
  found : Switchboard

/-- There is a reader of this number. -/
def IsReader (s : Switchboard) (l : ListenerId) : Prop :=
  ∃ topic unread closed, s.listener? l = some (.reader topic unread closed)

/-- Whom a wait reads from when it has its turn, if it is due. -/
def due? (s : Switchboard) (w : WaitId) : Option ListenerId :=
  match s.waits[w]? with
  | some ⟨l, .due⟩ => some l
  | _ => none

/-- What is read when a wait has its turn. -/
def waitReadings (s : Switchboard) (w : WaitId) : List Reading :=
  (s.due? w).toList.map fun l => ⟨l, ((s.proceed w).waits[w]?).bind Wait.value?, s⟩

namespace Move

/-- What a move makes of a switchboard. -/
def after : Move → Switchboard → Switchboard
  | .operate react o, s => Switchboard.after (execute react o) s
  | .turn, s => s.turn
  | .hasten w, s => s.proceed w
  | .wait l, s => s.startWait l
  | .abandon w, s => s.setWait w .abandoned
  | .shut l, s => Switchboard.after (Switchboard.shut l) s
  | .place onWorker, s => { s with onWorker }
  | .record records, s => { s with records }

/-- **A fair move.** -/
def Fair (s : Switchboard) : Move → Prop
  | .operate react o => Lawful quiet react ∧ o.isPlain ∧
      ∀ id l, o = .poll id → s.named? .observation id = some l → s.IsReader l
  | .wait l => l < s.listeners.length
  | .abandon w => ∀ l value, s.waits[w]? ≠ some ⟨l, .over value⟩
  | .shut l => ¬ s.IsCallback l
  | _ => True

/-- **A mild move**: a fair one, but that callbacks may close observations as well. -/
def Mild (s : Switchboard) : Move → Prop
  | .operate react o => Lawful mild react ∧ o.isPlain ∧
      ∀ id l, o = .poll id → s.named? .observation id = some l → s.IsReader l
  | m => m.Fair s

/-- What a move reads. -/
def readings (s : Switchboard) : Move → List Reading
  | .operate react o =>
    (s.reads? o).toList.map fun l =>
      ⟨l, (outcome (execute react o) s).toOption.bind Answer.value?, s⟩
  | .turn =>
    match s.queue with
    | .resume w :: _ => s.waitReadings w
    | _ => []
  | .hasten w => s.waitReadings w
  | _ => []

end Move

/-- What moves make of a switchboard, one after the other. -/
def play : List Move → Switchboard → Switchboard
  | [], s => s
  | m :: ms, s => play ms (m.after s)

/-- All moves are fair, each where it is made. -/
def Fair : List Move → Switchboard → Prop
  | [], _ => True
  | m :: ms, s => m.Fair s ∧ Fair ms (m.after s)

/-- All moves are mild, each where it is made. -/
def Mild : List Move → Switchboard → Prop
  | [], _ => True
  | m :: ms, s => m.Mild s ∧ Mild ms (m.after s)

/-- **The log of moves**: all that they read. -/
def log : List Move → Switchboard → List Reading
  | [], _ => []
  | m :: ms, s => m.readings s ++ log ms (m.after s)

variable {s s' : Switchboard} {l : ListenerId} {m : Move} {ms ms' : List Move}

theorem play_append (ms ms' : List Move) (s : Switchboard) :
    play (ms ++ ms') s = play ms' (play ms s) := by
  induction ms generalizing s with
  | nil => rfl
  | cons m ms ih => exact ih _

theorem fair_append : Fair (ms ++ ms') s ↔ Fair ms s ∧ Fair ms' (play ms s) := by
  induction ms generalizing s with
  | nil => exact (and_iff_right trivial).symm
  | cons m ms ih => exact (and_congr_right fun _ => ih).trans and_assoc.symm

theorem mild_append : Mild (ms ++ ms') s ↔ Mild ms s ∧ Mild ms' (play ms s) := by
  induction ms generalizing s with
  | nil => exact (and_iff_right trivial).symm
  | cons m ms ih => exact (and_congr_right fun _ => ih).trans and_assoc.symm

/-- **Fair moves are mild.** -/
theorem Move.Fair.mild (h : m.Fair s) : m.Mild s := by
  cases m with
  | operate => exact ⟨h.1.mild_of_quiet, h.2⟩
  | _ => exact h

theorem Fair.mild (h : Fair ms s) : Mild ms s := by
  induction ms generalizing s with
  | nil => trivial
  | cons m ms ih => exact ⟨h.1.mild, ih h.2⟩

theorem log_append (ms ms' : List Move) (s : Switchboard) :
    log (ms ++ ms') s = log ms s ++ log ms' (play ms s) := by
  induction ms generalizing s with
  | nil => rfl
  | cons m ms ih => rw [List.cons_append, log, ih, log, play, List.append_assoc]

/-! ## What moves keep -/

/-- A move that neither is an operation nor closes somebody. -/
def Move.isSilent : Move → Bool
  | .operate _ _ => false
  | .shut _ => false
  | _ => true

/-- Silent moves go unnoticed. -/
theorem Move.alike (h : m.isSilent) (s : Switchboard) : Alike s (m.after s) := by
  cases m with
  | operate | shut => cases h
  | turn => exact Alike.turn s
  | hasten w => exact Alike.proceed w s
  | wait l => exact ⟨rfl, rfl, rfl, rfl, rfl⟩
  | abandon w => exact Alike.setWait w _ s
  | place | record => exact ⟨rfl, rfl, rfl, rfl, rfl⟩

/-- **The tally stays right** whatever moves are made. -/
theorem Move.tells (hm : m.Mild s) : ∃ ds, Tells ds s (m.after s) := by
  cases m with
  | operate react o =>
    obtain ⟨hmild, ho, -⟩ := hm
    have hreact := hmild.plain_of_mild
    choose tale htale using fun l value s => (hreact l value s).account
    exact ⟨_, tells_execute (fun l value s => (htale l value s).proper)
      (fun l value s => (htale l value s).tells) ho s⟩
  | shut l =>
    refine ⟨[], fun ds₀ hs => ?_⟩
    rw [Move.after]
    rcases after_shut_cases l s with h | ⟨x, hx, -, h⟩
    · rw [h]
      exact Tells.refl s ds₀ hs
    · have hcall : x.isCallback = false :=
        Bool.eq_false_iff.2 fun h => hm ((isCallback_iff hx).2 h)
      rw [h]
      exact Tells.closing hx hcall (hs.orderly.listener?_ordinary x hx) ds₀ hs
  | _ => exact ⟨[], .of_alike (Move.alike rfl s)⟩

/-- **What operations keep, moves keep.** -/
theorem Kept.move {R : Switchboard → Switchboard → Prop} (h : Kept Switchboard.plain R)
    (hm : m.Mild s) : Proper R s (m.after s) := by
  cases m with
  | operate react o => exact h.execute (h.lawful hm.1.plain_of_mild) hm.2.1
  | shut l =>
    rw [Move.after]
    rcases after_shut_cases l s with hsame | ⟨x, hx, -, hshut⟩
    · rw [hsame]
      exact .refl h.admits s
    · rw [hshut]
      cases ht : x.topic? with
      | none => exact .of_alike h.admits (alike_closing hx ht)
      | some topic =>
        have hdrop : Proper R s ((s.modifyListener l (·.close)).detach topic l) := by
          intro hs
          refine ⟨hs.close_detach (kind?_of_listener? hx) ?_, Grows.close l s,
            h.admits.drop topic l s⟩
          rw [Listener.topic?_bare, ht]
        rw [closing, ht]
        exact hdrop.trans h.admits (.of_alike h.admits ⟨rfl, rfl, rfl, rfl, rfl⟩)
  | _ => exact .of_alike h.admits (Move.alike rfl s)

theorem Kept.play {R : Switchboard → Switchboard → Prop} (h : Kept Switchboard.plain R)
    (hms : Mild ms s) : Proper R s (play ms s) := by
  induction ms generalizing s with
  | nil => exact .refl h.admits s
  | cons m ms ih => exact (h.move hms.1).trans h.admits (ih hms.2)

end Switchboard

end FeatureFlags

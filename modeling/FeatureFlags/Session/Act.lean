import FeatureFlags.Switchboard.Perform

/-!
# Session/Act — what one does with a switchboard from outside

Acts are done one after the other.  Besides the operations, which callbacks may perform too, there
are acts that contain others: reading from a listener while something else is done, iterating over
its values, and using it for the length of a body.  Acts on an inbox let the event loop run until it
is idle wherever they wait.  So does an act apart from the loop, for which the loop waits.
-/

namespace FeatureFlags

/-- Which kind of listener is read from. -/
inductive Reader where
  | blocking
  | async
deriving DecidableEq

/-- **An act.** -/
inductive Act where
  | operation (o : Operation)
  | onWorker (a : Act)
  | wait (reader : Reader) (id : Text) (meanwhile : Act)
  | iterate (reader : Reader) (id : Text) (script : List Act)
  | within (reader : Reader) (id : Text) (body : List Act) (fails : Bool)

instance : Inhabited Act := ⟨.operation default⟩

namespace Session

open Switchboard

/-- The event loop runs until it is idle. -/
def settle : Action Unit := modify Switchboard.settle

/-- Where a reader waits, the event loop runs; a blocking reader does not let it. -/
def pause : Reader → Action Unit
  | .blocking => return
  | .async => settle

/-- An action apart from the event loop, which runs meanwhile. -/
def apart {α : Type} (action : Action α) : Action α := do
  let before := (← get).onWorker
  modify fun s => { s with onWorker := true }
  tryFinally action do
    modify fun s => { s with onWorker := before }
    settle

/-- A wait goes on, though what was done meanwhile has failed. -/
def waitOn (l : ListenerId) (f : Failure) : Action Answer := do
  modify (startWait l)
  throw f

/-- **Waiting at a blocking reader.**  What is unread is discarded; the reader gets what `meanwhile`
brings it, and is closed if that is nothing.  A wait during which something fails goes on. -/
def waitBlocking (l : ListenerId) (meanwhile : Action Answer) : Action Answer := do
  let _ ← takeUnread l
  let _ ← tryCatch meanwhile (waitOn l)
  match ← next l with
  | .blocked => do
    shut l
    return .blocked
  | answer => return answer

/-- What a wait has come to, if it is over. -/
def conclusion? (w : WaitId) : Action (Option Answer) := do
  match (← get).waits[w]? with
  | some ⟨_, .over none⟩ => return some .stopped
  | some ⟨_, .over (some value)⟩ => return some (.truth value)
  | _ => return none

/-- **Waiting at an inbox.**  What is there already is the answer; otherwise it is what `meanwhile`
brings, and if that is nothing the wait is given up.  A wait during which something fails goes
on. -/
def waitAsync (l : ListenerId) (meanwhile : Action Answer) : Action Answer := do
  let w := (← get).waits.length
  modify (startWait l)
  settle
  match ← conclusion? w with
  | some answer => return answer
  | none => do
    let _ ← meanwhile
    settle
    match ← conclusion? w with
    | some answer => return answer
    | none => do
      modify (setWait w .abandoned)
      return .blocked

/-- The value that can be read at once, if there is one. -/
def present (l : ListenerId) : Action (List Bool) := do
  match ← next l with
  | .truth value => return [value]
  | _ => return []

/-- The values that can be read now: the one that is there, and the one that comes by waiting. -/
def drain (reader : Reader) (l : ListenerId) : Action (List Bool) := do
  let first ← present l
  pause reader
  return first ++ (← present l)

/-- **The values of an iteration.**  Whenever there is nothing to read, the next action of the
script is done; when none is left, the reader is closed. -/
def values (reader : Reader) (l : ListenerId) : List (Action Answer) → Action (List Bool)
  | [] => do
    let read ← drain reader l
    shut l
    return read
  | action :: script => do
    let read ← drain reader l
    if ← isClosed l then return read
    let _ ← action
    pause reader
    return read ++ (← values reader l script)

/-- **The answers of a body**, after which the reader is closed however it ends. -/
def body (reader : Reader) (l : ListenerId) (actions : List (Action Answer)) (fails : Bool) :
    Action Answer :=
  tryFinally
    (do
      let answers ← actions.mapM fun action => do
        let answer ← action
        pause reader
        return answer
      if fails then throw .bodyFailed
      return .results answers)
    (shut l)

mutual

/-- **Doing an act.** -/
def run : Act → Action Answer
  | .operation o => perform o
  | .onWorker a => apart (run a)
  | .wait .blocking id meanwhile =>
    withNamed .observation id fun l => waitBlocking l (run meanwhile)
  | .wait .async id meanwhile => withNamed .observation id fun l => waitAsync l (run meanwhile)
  | .iterate reader id script => withNamed .observation id fun l => do
    return .values (← values reader l (runAll script))
  | .within reader id acts fails =>
    withNamed .observation id fun l => body reader l (runAll acts) fails

/-- Doing acts, each of them when its time comes. -/
def runAll : List Act → List (Action Answer)
  | [] => []
  | a :: acts => run a :: runAll acts

end

/-! ## Rows -/

/-- **A step**: an act, and whether the event loop runs until it is idle before the next one. -/
structure Step where
  act : Act
  settles : Bool

/-- **What a step shows**: its answer or failure, the values that callbacks received meanwhile, and
the records left. -/
structure Row where
  outcome : Except Failure Answer
  events : List (Text × Bool)
  records : List Record

/-- Doing a step. -/
def step (st : Step) (s : Switchboard) : Row × Switchboard :=
  let (outcome, after) := (run st.act).run s
  let after := if st.settles then after.settle else after
  let events := after.shown (after.history.drop s.history.length)
  (⟨outcome, events, after.records.drop s.records.length⟩, after)

/-- **Doing steps in order.** -/
def rows : List Step → Switchboard → List Row
  | [], _ => []
  | st :: steps, s =>
    let (row, after) := step st s
    row :: rows steps after

end Session

end FeatureFlags

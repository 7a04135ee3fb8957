import FeatureFlags.Json.Sending
import FeatureFlags.Log
import FeatureFlags.Roster
import FeatureFlags.Switchboard.Operation
import FeatureFlags.Text.Numeral

/-!
# Switchboard/Basic — flags, signals and those who listen

A switchboard holds the roster of flags and one signal for each name that was ever listened to or
published.  A signal has the value last published and the listeners attached to it.  A listener is a
callback, a reader with room for one unread value, or an inbox, which is a reader whose values come
by way of an event loop.

The event loop does its jobs in the order in which they were queued.  A job is the arrival of a
value at an inbox, or the turn of somebody who waits for one; who waits and finds nothing is parked,
and gets a turn again when a value arrives or the inbox is closed.

The values that topics get and those that are handed to listeners are kept in a history.  Actions may
fail, and what they did before stays done.
-/

namespace FeatureFlags

/-- A listener's place in the switchboard's list of listeners. -/
abbrev ListenerId := Nat

/-- **A listener.**  A callback listens to one topic and its failures are its own; a recorder may
listen to several, and its failures are those of the one who publishes. -/
inductive Listener where
  | callback (label topic : Text) (script : Script)
  | recorder (label : Text) (script : Script)
  | reader (topic : Text) (unread : Option Bool) (closed : Bool)
  | inbox (topic : Text) (loop : Loop) (unread : Option Bool) (closed : Bool)

namespace Listener

/-- The label under which what a listener receives is shown. -/
def label? : Listener → Option Text
  | .callback label _ _ => some label
  | .recorder label _ => some label
  | _ => none

/-- The topic of a listener that has one. -/
def topic? : Listener → Option Text
  | .callback _ topic _ => some topic
  | .recorder _ _ => none
  | .reader topic _ _ => some topic
  | .inbox topic _ _ _ => some topic

/-- The script of a listener. -/
def script : Listener → Script
  | .callback _ _ script => script
  | .recorder _ script => script
  | _ => []

/-- A listener with another script. -/
def withScript (script : Script) : Listener → Listener
  | .callback label topic _ => .callback label topic script
  | .recorder label _ => .recorder label script
  | l => l

/-- The unread value. -/
def unread : Listener → Option Bool
  | .reader _ unread _ => unread
  | .inbox _ _ unread _ => unread
  | _ => none

/-- Whether a reader or an inbox is closed. -/
def closed : Listener → Bool
  | .reader _ _ closed => closed
  | .inbox _ _ _ closed => closed
  | _ => false

/-- **The latest value** takes the room of an unread one; what is closed takes none. -/
def store (value : Bool) : Listener → Listener
  | .reader topic _ false => .reader topic (some value) false
  | .inbox topic loop _ false => .inbox topic loop (some value) false
  | l => l

/-- The unread value has been read. -/
def take : Listener → Listener
  | .reader topic _ closed => .reader topic none closed
  | .inbox topic loop _ closed => .inbox topic loop none closed
  | l => l

/-- **Closing.**  A reader forgets the value it has not read. -/
def close : Listener → Listener
  | .reader topic _ _ => .reader topic none true
  | .inbox topic loop unread _ => .inbox topic loop unread true
  | l => l

/-- The loop of an inbox is closed. -/
def closeLoop : Listener → Listener
  | .inbox topic _ unread closed => .inbox topic .closed unread closed
  | l => l

end Listener

/-- **A signal**: the value last published, and the listeners in the order of their attachment. -/
structure Signal where
  value : Bool
  listeners : List ListenerId
deriving DecidableEq

/-- The identifiers given to listeners are of three kinds, which do not meet; readers and inboxes
share one. -/
inductive Register where
  | subscription
  | recorder
  | observation
deriving DecidableEq

/-! ## The event loop -/

/-- A wait's place in the switchboard's list of waits. -/
abbrev WaitId := Nat

/-- How a wait stands: parked, with a turn in the queue, over with a value or, if the inbox was
closed, without one, or given up. -/
inductive WaitState where
  | parked
  | due
  | over (value : Option Bool)
  | abandoned
deriving DecidableEq

/-- **A wait** for a value of an inbox. -/
structure Wait where
  inbox : ListenerId
  state : WaitState
deriving DecidableEq

/-- **A job of the event loop**: a value arrives at an inbox, or a wait has its turn. -/
inductive Job where
  | arrival (inbox : ListenerId) (value : Bool)
  | resume (w : WaitId)
deriving DecidableEq

/-- **What a history tells**: a topic got a value, which is for the listeners it had then, or a value
was handed to a listener. -/
inductive Event where
  | written (topic : Text) (value : Bool) (listeners : List ListenerId)
  | handed (l : ListenerId) (value : Bool)
deriving DecidableEq

/-- **The switchboard.**  `directory` tells which listener an identifier stands for, the latest
first; `queue` holds the jobs of the event loop; `waits`, `history` and `records` grow at their end;
`onWorker` tells that the present action runs apart from the event loop. -/
structure Switchboard where
  roster : Roster
  signals : List (Text × Signal)
  listeners : List Listener
  directory : List ((Register × Text) × ListenerId)
  queue : List Job
  waits : List Wait
  history : List Event
  records : List Record
  onWorker : Bool

/-- **Why an action fails.**  Each failure stands for an `Exception`, which whoever guards against
failures catches.  An interrupt or an exit of the program is none: nobody catches it, and it ends all
that goes on. -/
inductive Failure where
  | invalid (issues : List Issue)
  | overlong (o : Overlong)
  | callbackFailed
  | noRunningLoop
  | bodyFailed
  | unsendable (u : Json.Unsendable)

/-- **An action on a switchboard.**  A failing action keeps what it has changed. -/
abbrev Action := ExceptT Failure (StateM Switchboard)

namespace Switchboard

/-- A switchboard with some flags and nobody listening. -/
def ofRoster (roster : Roster) : Switchboard :=
  ⟨roster, [], [], [], [], [], [], [], false⟩

/-! ## Signals -/

/-- **The signal of a topic.** -/
def signal? (s : Switchboard) (topic : Text) : Option Signal := s.signals.lookup topic

/-- The value of a topic; without a signal it is off. -/
def value (s : Switchboard) (topic : Text) : Bool := ((s.signal? topic).map (·.value)).getD false

/-- The listeners attached to a topic. -/
def attached (s : Switchboard) (topic : Text) : List ListenerId :=
  ((s.signal? topic).map (·.listeners)).getD []

/-- **A signal for a topic**, with an initial value if there is none yet. -/
def ensure (topic : Text) (initial : Bool) (s : Switchboard) : Switchboard :=
  if (s.signal? topic).isSome then s
  else
    { s with
      signals := s.signals ++ [(topic, ⟨initial, []⟩)]
      history := s.history ++ [.written topic initial []] }

/-- The signal of a topic changed. -/
def adjust (topic : Text) (f : Signal → Signal) (s : Switchboard) : Switchboard :=
  { s with signals := s.signals.map fun (t, signal) => (t, if t = topic then f signal else signal) }

/-- **Another value for a topic**, which is for the listeners it has now. -/
def write (topic : Text) (value : Bool) (s : Switchboard) : Switchboard :=
  { s.adjust topic fun signal => { signal with value } with
    history := s.history ++ [.written topic value (s.attached topic)] }

/-- A listener behind all others of a topic. -/
def attach (topic : Text) (l : ListenerId) : Switchboard → Switchboard :=
  adjust topic fun signal => { signal with listeners := signal.listeners ++ [l] }

/-- A listener taken from a topic, where it is attached first. -/
def detach (topic : Text) (l : ListenerId) : Switchboard → Switchboard :=
  adjust topic fun signal => { signal with listeners := signal.listeners.erase l }

/-! ## Listeners -/

/-- The listener of a number. -/
def listener? (s : Switchboard) (l : ListenerId) : Option Listener := s.listeners[l]?

/-- A listener changed. -/
def modifyListener (l : ListenerId) (f : Listener → Listener) (s : Switchboard) : Switchboard :=
  { s with listeners := s.listeners.modify l f }

/-- The listener an identifier stands for. -/
def named? (s : Switchboard) (register : Register) (id : Text) : Option ListenerId :=
  s.directory.lookup (register, id)

/-- An identifier for a listener; it no longer stands for another one. -/
def name (register : Register) (id : Text) (l : ListenerId) (s : Switchboard) : Switchboard :=
  { s with directory := ((register, id), l) :: s.directory }

/-! ## Jobs and waits -/

/-- A value on its way to an inbox. -/
def enqueue (l : ListenerId) (value : Bool) (s : Switchboard) : Switchboard :=
  { s with queue := s.queue ++ [.arrival l value] }

/-- A wait that stands otherwise. -/
def setWait (w : WaitId) (state : WaitState) (s : Switchboard) : Switchboard :=
  { s with waits := s.waits.modify w fun wait => { wait with state } }

/-- A new wait for a value of an inbox, which has its first turn. -/
def startWait (l : ListenerId) (s : Switchboard) : Switchboard :=
  { s with waits := s.waits ++ [⟨l, .due⟩], queue := s.queue ++ [.resume s.waits.length] }

/-- The waits that are parked at an inbox. -/
def parkedAt (s : Switchboard) (l : ListenerId) : List WaitId :=
  (List.range s.waits.length).filter fun w => s.waits[w]? = some ⟨l, .parked⟩

/-- **Waking** all waits that are parked at an inbox: each gets a turn. -/
def wake (l : ListenerId) (s : Switchboard) : Switchboard :=
  { s with
    waits := s.waits.map fun wait => if wait = ⟨l, .parked⟩ then ⟨l, .due⟩ else wait
    queue := s.queue ++ (s.parkedAt l).map .resume }

/-- A value arrives; an inbox that is closed does not take it. -/
def arrive (l : ListenerId) (value : Bool) (s : Switchboard) : Switchboard :=
  match s.listener? l with
  | none => s
  | some listener =>
    if listener.closed then s else (s.modifyListener l (·.store value)).wake l

/-- **The turn of a wait**: it is over if the inbox is closed or a value is there, which is read by
this, and otherwise parked. -/
def proceed (w : WaitId) (s : Switchboard) : Switchboard :=
  match s.waits[w]? with
  | some ⟨l, .due⟩ =>
    match s.listener? l with
    | none => s
    | some listener =>
      if listener.closed then s.setWait w (.over none)
      else match listener.unread with
        | none => s.setWait w .parked
        | some value => (s.modifyListener l (·.take)).setWait w (.over (some value))
  | _ => s

/-- **One turn of the event loop**: the job that was queued first is done. -/
def turn (s : Switchboard) : Switchboard :=
  match s.queue with
  | [] => s
  | .arrival l value :: queue => { s with queue }.arrive l value
  | .resume w :: queue => { s with queue }.proceed w

/-- **The loop runs until it is idle.**  An arrival gives each wait at most one turn, which bounds
the number of jobs. -/
def settle (s : Switchboard) : Switchboard :=
  Nat.repeat turn (s.queue.length * (1 + s.waits.length)) s

/-! ## History and records -/

/-- A value handed to a listener. -/
def deliver (l : ListenerId) (value : Bool) (s : Switchboard) : Switchboard :=
  { s with history := s.history ++ [.handed l value] }

/-- A record left. -/
def record (severity : Severity) (message : Text) (s : Switchboard) : Switchboard :=
  { s with records := s.records ++ [⟨severity, message⟩] }

/-- What a history shows: values under the labels of those who received them. -/
def shown (s : Switchboard) (history : List Event) : List (Text × Bool) :=
  history.filterMap fun
    | .written _ _ _ => none
    | .handed l value => ((s.listener? l).bind Listener.label?).map fun label => (label, value)

/-- How often triggers may still act. -/
def budget (s : Switchboard) : Nat :=
  s.listeners.foldr (fun l n => Script.budget l.script + n) 0

end Switchboard

end FeatureFlags

import FeatureFlags.Switchboard.Basic

/-!
# Switchboard/Delivery — handing values to listeners

A value is handed to the listeners that are attached when the handing out begins, in the order of
their attachment; a listener that is attached receives the value of its signal at once.  What a
callback does with a value is a parameter here, `react`: it may do anything, publish again and fail
included.

A value for an inbox waits in the queue of the event loop.  If the loop of an inbox is closed, the
inbox is closed and detached, and nobody else notices.
-/

namespace FeatureFlags

namespace Switchboard

/-- What callbacks do with the values they receive. -/
abbrev React := ListenerId → Bool → Action Unit

/-- A record left. -/
def note (severity : Severity) (message : Text) : Action Unit := modify (record severity message)

/-- The listener of a number. -/
def getListener (l : ListenerId) : Action (Option Listener) := return (← get).listener? l

/-- **Handing a value to a listener.**  A failing callback leaves a record, and the handing out goes
on; a failure is an `Exception` here as everywhere. -/
def hand (react : React) (value : Bool) (l : ListenerId) : Action Unit := do
  match ← getListener l with
  | none => return
  | some (.callback _ topic _) =>
    modify (deliver l value)
    tryCatch (react l value) fun _ =>
      note .error ("Observer callback for " ++ Record.named topic ++ " failed")
  | some (.recorder _ _) =>
    modify (deliver l value)
    react l value
  | some (.reader _ _ closed) =>
    if closed then return
    modify (deliver l value)
    modify (modifyListener l (·.store value))
    modify (wake l)
  | some (.inbox topic loop _ _) =>
    match loop with
    | .running =>
      modify (deliver l value)
      modify (enqueue l value)
    | .idle => modify (deliver l value)
    | .closed =>
      note .debug ("Event loop closed, detaching observer of " ++ Record.named topic)
      modify (modifyListener l (·.close))
      modify (detach topic l)

/-- **Setting the value of a topic** and handing it to everybody attached. -/
def set (react : React) (topic : Text) (value : Bool) : Action Unit := do
  modify (ensure topic false)
  modify (write topic value)
  ((← get).attached topic).forM (hand react value)

/-- **Publishing**: the value is set and handed out before the action returns. -/
def publish (react : React) (topic : Text) (value : Bool) : Action Unit := do
  modify (ensure topic value)
  set react topic value
  note .debug ("Published " ++ Record.named topic ++ " = " ++ Record.truth value)

/-- A listener that was not there before. -/
def enroll (listener : Listener) : Action ListenerId := do
  let s ← get
  modify fun s => { s with listeners := s.listeners ++ [listener] }
  return s.listeners.length

/-- **Attaching a listener** and handing it the present value. -/
def join (react : React) (topic : Text) (l : ListenerId) : Action Unit := do
  modify (attach topic l)
  hand react ((← get).value topic) l

/-- The initial value of a topic: the given one, or the state of the flag of that name. -/
def initialValue (topic : Text) (initial : Option Bool) : Action Bool :=
  return initial.getD ((← get).roster.isEnabled topic)

/-- **A new listener of a topic**, which receives the present value at once. -/
def enter (react : React) (topic : Text) (listener : Listener) : Action ListenerId := do
  let l ← enroll listener
  join react topic l
  return l

/-- **Subscribing a callback.**  The identifier stands for it when its first value has been handed
to it. -/
def subscribe (react : React) (id topic : Text) (initial : Option Bool) (script : Script) :
    Action Unit := do
  modify (ensure topic (← initialValue topic initial))
  let l ← enter react topic (.callback id topic script)
  modify (name .subscription id l)

/-- **Observing by a reader.** -/
def observe (react : React) (id topic : Text) (initial : Option Bool) : Action Unit := do
  modify (ensure topic (← initialValue topic initial))
  let l ← enter react topic (.reader topic none false)
  modify (name .observation id l)

/-- **An inbox of a topic.**  The running loop is not known to an action apart from it. -/
def enterAsync (react : React) (topic : Text) (initial : Option Bool) (loop : Loop) :
    Action ListenerId := do
  modify (ensure topic (← initialValue topic initial))
  if loop = .running ∧ (← get).onWorker then throw .noRunningLoop
  enter react topic (.inbox topic loop none false)

/-- **Observing by an inbox.** -/
def observeAsync (react : React) (id topic : Text) (initial : Option Bool) (loop : Loop) :
    Action Unit := do
  let l ← enterAsync react topic initial loop
  modify (name .observation id l)

/-- **Unsubscribing**; whether there was a subscription of that identifier. -/
def unsubscribe (id : Text) : Action Bool := do
  let s ← get
  match s.named? .subscription id with
  | none => return false
  | some l =>
    match (s.listener? l).bind Listener.topic? with
    | none => return false
    | some topic =>
      modify (detach topic l)
      return true

/-- The recorder of an identifier, made at its first use. -/
def recorder (id : Text) (script : Script) : Action ListenerId := do
  match (← get).named? .recorder id with
  | some l => return l
  | none =>
    let l ← enroll (.recorder id script)
    modify (name .recorder id l)
    return l

/-- **Closing a reader or an inbox** detaches it, once, and wakes those who wait at it. -/
def shut (l : ListenerId) : Action Unit := do
  match ← getListener l with
  | none => return
  | some listener =>
    if listener.closed then return
    modify (modifyListener l (·.close))
    modify (wake l)
    match listener.topic? with
    | none => return
    | some topic => modify (detach topic l)

/-- The unread value of a listener, which is read by this. -/
def takeUnread (l : ListenerId) : Action (Option Bool) := do
  let unread := (← getListener l).bind Listener.unread
  modify (modifyListener l (·.take))
  return unread

/-- Whether a reader or an inbox is closed. -/
def isClosed (l : ListenerId) : Action Bool :=
  return ((← getListener l).map (·.closed)).getD true

/-! ## Changes of the flags -/

/-- **A changed flag**: defined anew, and its state published. -/
def update (react : React) (f : Flag) : Action Unit := do
  modify fun s => { s with roster := s.roster.upsert f }
  publish react f.name f.enabled
  note .info ("Updated feature " ++ Record.named f.name ++ " (enabled=" ++ Record.truth f.enabled
    ++ ")")

/-- Another flag, published to nobody. -/
def save (f : Flag) : Action Unit := do
  modify fun s => { s with roster := s.roster.insert f }
  note .debug ("Saved feature " ++ Record.named f.name)

/-- More flags, published to nobody. -/
def saveAll (fs : List Flag) : Action Unit := do
  modify fun s => { s with roster := s.roster.insertAll fs }
  note .debug ("Saved " ++ Text.ofNat fs.length ++ " features")

/-- **No flags any more.**  The signals keep their values, and nobody is told. -/
def clearAll : Action Unit := do
  modify fun s => { s with roster := [] }
  note .info "Cleared all features"

/-- Checked data, or the failure of what it was meant for. -/
def require {α : Type} : Checked α → Action α
  | .ok a => pure a
  | .error issues => throw (.invalid issues)

/-- **Changing the flags.** -/
def change (react : React) : Change → Action Unit
  | .save flag => do save (← require flag)
  | .saveAll flags => do saveAll (← require flags)
  | .replace flag => do
    let f ← require flag
    modify fun s => { s with roster := s.roster.upsert f }
  | .empty => modify fun s => { s with roster := [] }
  | .update flag => do update react (← require flag)
  | .clearAll => clearAll

end Switchboard

end FeatureFlags

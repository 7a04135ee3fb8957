import FeatureFlags.Switchboard.Eligibility

/-!
# Switchboard/Perform — performing operations, and what callbacks do meanwhile

An operation is performed by the actions on the switchboard.  While values are handed out, callbacks
perform operations of their own, and these may again hand out values.  Every trigger that acts is
used up by one first, so the depth to which this goes is bounded by the budget of all scripts, and
an operation is performed with that budget as its depth.
-/

namespace FeatureFlags

/-- **What an operation answers.** -/
inductive Answer where
  | nothing
  | truth (b : Bool)
  | number (n : Nat)
  | text (t : Text)
  | texts (ts : List Text)
  | flag (f : Flag)
  | flags (fs : List Flag)
  | listing (fs : List Flag)
  | blocked
  | stopped
  | noSubscription
  | values (vs : List Bool)
  | results (as : List Answer)

namespace Answer

/-- A value that may be missing. -/
def ofOption {α : Type} (f : α → Answer) : Option α → Answer
  | none => .nothing
  | some a => f a

end Answer

namespace Switchboard

/-- **Answering a query.** -/
def ask : Query → Action Answer
  | .flag topic => return .ofOption .flag ((← get).roster.get? topic)
  | .stateOr topic absent => return .truth ((← get).roster.stateOr topic absent)
  | .isEnabled topic => return .truth ((← get).roster.isEnabled topic)
  | .contains topic => return .truth ((← get).roster.contains topic)
  | .all => return .flags (← get).roster
  | .enabled => return .listing (← get).roster.enabled
  | .disabled => return .listing (← get).roster.disabled
  | .anyEnabled => return .truth (← get).roster.anyEnabled
  | .size => return .number (← get).roster.length
  | .levelRules topic => return .texts ((← get).roster.levelRules topic)
  | .versionRules topic => return .texts ((← get).roster.versionRules topic)
  | .supportsLevel topic level => return .truth (← supportsLevel topic level)
  | .supportsVersion topic version => return .truth (← supportsVersion topic version)
  | .supports topic level version => return .truth (← supports topic level version)

/-- An action on the listener of an identifier; without one nothing happens. -/
def withNamed (register : Register) (id : Text) (act : ListenerId → Action Answer) :
    Action Answer := do
  match (← get).named? register id with
  | none => return .nothing
  | some l => act l

/-- The next value of a reader or an inbox, if it need not be waited for. -/
def next (l : ListenerId) : Action Answer := do
  if ← isClosed l then return .stopped
  match ← takeUnread l with
  | none => return .blocked
  | some value => return .truth value

/-- The topic of a listener. -/
def topicOf (l : ListenerId) : Action Answer :=
  return .ofOption .text ((← getListener l).bind Listener.topic?)

/-- **Carrying out an operation**, callbacks doing what `react` says. -/
def execute (react : React) : Operation → Action Answer
  | .change c => do
    change react c
    return .listing (← get).roster
  | .query q => ask q
  | .publish topic value => do
    publish react topic value
    return .nothing
  | .current topic => return .ofOption .truth (((← get).signal? topic).map (·.value))
  | .known topic => return .truth ((← get).signal? topic).isSome
  | .signal topic initial => do
    modify (ensure topic initial)
    return .truth ((← get).value topic)
  | .set topic value => do
    set react topic value
    return .nothing
  | .count topic => do
    modify (ensure topic false)
    return .number ((← get).attached topic).length
  | .subscribe id topic initial script => do
    subscribe react id topic initial script
    return .nothing
  | .unsubscribe id => return if ← unsubscribe id then .nothing else .noSubscription
  | .attach id topic script => do
    modify (ensure topic false)
    join react topic (← recorder id script)
    return .nothing
  | .detach id topic script => do
    modify (ensure topic false)
    modify (detach topic (← recorder id script))
    return .nothing
  | .observe id topic initial => do
    observe react id topic initial
    return .nothing
  | .poll id => withNamed .observation id fun l => return .ofOption .truth (← takeUnread l)
  | .next id => withNamed .observation id next
  | .close id => withNamed .observation id fun l => do
    shut l
    return .nothing
  | .isClosed id => withNamed .observation id fun l => return .truth (← isClosed l)
  | .topicOf id => withNamed .observation id topicOf
  | .observeAsync id topic initial loop => do
    observeAsync react id topic initial loop
    return .nothing
  | .closeLoop id => withNamed .observation id fun l => do
    modify (modifyListener l (·.closeLoop))
    return .nothing

/-! ## Callbacks -/

/-- What a trigger does when it acts. -/
def act (perform : Operation → Action Answer) : Trigger → Action Unit
  | .fail _ _ => throw .callbackFailed
  | .perform _ _ operation => do
    let _ ← perform operation

/-- The trigger at a place of a listener's script. -/
def trigger? (s : Switchboard) (l : ListenerId) (i : Nat) : Option Trigger :=
  (s.listener? l).bind fun listener => listener.script[i]?

/-- A trigger is used up by one. -/
def spend (l : ListenerId) (i : Nat) : Switchboard → Switchboard :=
  modifyListener l fun listener => listener.withScript (listener.script.modify i (·.spent))

/-- **Following a script**: trigger by trigger, as each one stands when its turn comes. -/
def follow (perform : Operation → Action Answer) (l : ListenerId) (value : Bool) : Action Unit := do
  let size := ((← getListener l).map fun listener => listener.script.length).getD 0
  (List.range size).forM fun i => do
    match (← get).trigger? l i with
    | none => return
    | some t =>
      if t.fires value then
        modify (spend l i)
        act perform t

/-- **Performing an operation** with callbacks acting to a depth; below it they do nothing. -/
def performTo : Nat → Operation → Action Answer
  | 0, operation => execute (fun _ _ => return) operation
  | depth + 1, operation => execute (follow (performTo depth)) operation

/-- What callbacks do while an operation is performed that may itself make more of them act. -/
def reaction (s : Switchboard) (more : Nat) : React :=
  match s.budget + more with
  | 0 => fun _ _ => return
  | depth + 1 => follow (performTo depth)

/-- **Performing an operation.** -/
def perform (operation : Operation) : Action Answer := do
  execute (reaction (← get) operation.budget) operation

end Switchboard

end FeatureFlags

import FeatureFlags.Flag.Basic
import FeatureFlags.Issue

/-!
# Switchboard/Operation — what is asked of a switchboard, also by callbacks

Operations change or query the flags, hand a flag's state on to those who listen, or concern a
single listener.  A callback answers the values it receives by its script: a list of triggers, each
of which fails or performs an operation, a bounded number of times.  So operations and triggers
contain each other, and what a callback may come to do is a finite tree.

Listeners are spoken of by the identifiers under which they were made.
-/

namespace FeatureFlags

/-- The event loop to which values for an inbox are handed: the running one, one that stands still,
or one that is closed. -/
inductive Loop where
  | running
  | idle
  | closed
deriving DecidableEq

/-- **Changes of the flags.**  Data is checked before it is used, so a change may carry issues in
the place of a flag. -/
inductive Change where
  | save (flag : Checked Flag)
  | saveAll (flags : Checked (List Flag))
  | replace (flag : Checked Flag)
  | empty
  | update (flag : Checked Flag)
  | clearAll

/-- **Queries about the flags.** -/
inductive Query where
  | flag (name : Text)
  | stateOr (name : Text) (absent : Bool)
  | isEnabled (name : Text)
  | contains (name : Text)
  | all
  | enabled
  | disabled
  | anyEnabled
  | size
  | levelRules (name : Text)
  | versionRules (name : Text)
  | supportsLevel (name : Text) (level : Int)
  | supportsVersion (name version : Text)
  | supports (name : Text) (level : Int) (version : Text)
deriving DecidableEq

mutual

/-- **The operations.**  A missing initial value stands for the state of the flag. -/
inductive Operation where
  | change (c : Change)
  | query (q : Query)
  | publish (topic : Text) (value : Bool)
  | current (topic : Text)
  | known (topic : Text)
  | signal (topic : Text) (initial : Bool)
  | set (topic : Text) (value : Bool)
  | count (topic : Text)
  | subscribe (id topic : Text) (initial : Option Bool) (script : List Trigger)
  | unsubscribe (id : Text)
  | attach (id topic : Text) (script : List Trigger)
  | detach (id topic : Text) (script : List Trigger)
  | observe (id topic : Text) (initial : Option Bool)
  | poll (id : Text)
  | next (id : Text)
  | close (id : Text)
  | isClosed (id : Text)
  | topicOf (id : Text)
  | observeAsync (id topic : Text) (initial : Option Bool) (loop : Loop)
  | closeLoop (id : Text)

/-- **A trigger** of a script: the value it waits for, if not any; how often it may still act; and
what it does. -/
inductive Trigger where
  | fail (awaited : Option Bool) (left : Nat)
  | perform (awaited : Option Bool) (left : Nat) (operation : Operation)

end

instance : Inhabited Operation := ⟨.query .all⟩

instance : Inhabited Trigger := ⟨.fail none 0⟩

/-- What a callback does with the values it receives. -/
abbrev Script := List Trigger

namespace Trigger

/-- How often a trigger may still act. -/
def left : Trigger → Nat
  | .fail _ left => left
  | .perform _ left _ => left

/-- The value a trigger waits for. -/
def awaited : Trigger → Option Bool
  | .fail awaited _ => awaited
  | .perform awaited _ _ => awaited

/-- Whether a value makes a trigger act. -/
def fires (t : Trigger) (value : Bool) : Bool :=
  0 < t.left && (t.awaited.all (· == value))

/-- A trigger that has acted once more. -/
def spent : Trigger → Trigger
  | .fail awaited left => .fail awaited (left - 1)
  | .perform awaited left operation => .perform awaited (left - 1) operation

end Trigger

mutual

/-- How often triggers may act because of an operation. -/
def Operation.budget : Operation → Nat
  | .subscribe _ _ _ script => Script.budget script
  | .attach _ _ script => Script.budget script
  | .detach _ _ script => Script.budget script
  | _ => 0

/-- How often triggers may act because of a trigger, itself included. -/
def Trigger.budget : Trigger → Nat
  | .fail _ left => left
  | .perform _ left operation => left * (1 + operation.budget)

/-- How often triggers may act because of a script. -/
def Script.budget : List Trigger → Nat
  | [] => 0
  | t :: script => t.budget + Script.budget script

end

end FeatureFlags

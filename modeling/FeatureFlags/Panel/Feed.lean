import FeatureFlags.Json.Printer
import FeatureFlags.Switchboard.Perform

/-!
# Panel/Feed — a flag's state as a stream of events

A feed sends the state of a flag when it opens and each later one when it is published; states that
follow each other faster than they are sent are skipped, up to the last one.

    looking ──▸ waiting ──▸ looking ──▸ … ──▸ ended

A feed looks for its reader, and if the reader is there it waits for a value of its inbox.  When the
wait is over the feed sends the value, and looks again; a wait that takes too long is given up, and
the feed looks again as well.  If the reader is gone the feed ends, and listens no more.
-/

namespace FeatureFlags

/-- **Where a feed stands.** -/
inductive FeedState where
  | looking
  | waiting (w : WaitId)
  | ended
deriving DecidableEq

/-- **A feed.** -/
structure Feed where
  name : Text
  inbox : ListenerId
  connected : Bool
  state : FeedState

namespace Feed

open Switchboard

/-- Whether a feed has ended. -/
def ended (feed : Feed) : Bool := feed.state = .ended

/-- The document of an event. -/
def payload (name : Text) (enabled : Bool) : Json :=
  .obj [("name", .str name), ("enabled", .bool enabled)]

/-- **An event as it is sent**: one line of data and an empty one. -/
def frame (name : Text) (enabled : Bool) : List Char :=
  "data: ".toList ++ (payload name enabled).render ++ ['\n', '\n']

/-- **Opening a feed.** -/
def start (name : Text) : Action Feed := do
  let s ← get
  let inbox ← enterAsync (reaction s 0) name none .running
  return ⟨name, inbox, true, .looking⟩

/-- The end of a feed. -/
def stop (feed : Feed) : Action Feed := do
  shut feed.inbox
  return { feed with state := .ended }

/-- **Looking for the reader**: if it is there the feed begins to wait, and otherwise it ends. -/
def look (feed : Feed) : Action Feed := do
  match feed.state with
  | .looking =>
    if feed.connected then
      let w := (← get).waits.length
      modify (startWait feed.inbox)
      return { feed with state := .waiting w }
    else feed.stop
  | _ => return feed

/-- **Heeding a wait that is over**: its value is sent. -/
def heed (feed : Feed) : Action (List Bool × Feed) := do
  match feed.state with
  | .waiting w =>
    match (← get).waits[w]? with
    | some ⟨_, .over (some value)⟩ => return ([value], { feed with state := .looking })
    | some ⟨_, .over none⟩ => return ([], ← feed.stop)
    | _ => return ([], feed)
  | _ => return ([], feed)

/-- **Giving up a wait** that takes too long; one that is over is not given up. -/
def timeOut (feed : Feed) : Action Feed := do
  match feed.state with
  | .waiting w =>
    match (← get).waits[w]? with
    | some ⟨_, .over _⟩ => return feed
    | _ =>
      modify (setWait w .abandoned)
      return { feed with state := .looking }
  | _ => return feed

/-- The reader leaves. -/
def disconnect (feed : Feed) : Feed := { feed with connected := false }

/-- Going on once the event loop is idle. -/
def pump (feed : Feed) : Action (List Bool × Feed) := do
  modify settle
  let (sent, feed) ← feed.heed
  return (sent, ← feed.look)

/-- **Going on until the feed waits or has ended**, and what it sends meanwhile; unless it is
`patient`, it gives up its wait and looks once more. -/
def advance (feed : Feed) (patient : Bool) : Action (List (List Char) × Feed) := do
  let (first, feed) ← feed.pump
  let (second, feed) ← feed.pump
  let feed ← if patient then pure feed else (← feed.timeOut).look
  modify settle
  return ((first ++ second).map (frame feed.name), feed)

end Feed

end FeatureFlags

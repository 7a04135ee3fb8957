import FeatureFlags.Panel.Feed
import FeatureFlags.Panel.Label
import FeatureFlags.Panel.Respond
import FeatureFlags.Switchboard.Start

/-!
# Panel/Exchange — requests in order, and a feed beside them

A panel answers requests one after the other on one switchboard.  Meanwhile callbacks may watch some
names, and a feed may be open; the feed sends what it has to send while the panel waits and after
every step.  A failure on the way ends it all.
-/

namespace FeatureFlags

namespace Panel

open Switchboard

/-- **A panel's switchboard**, started from settings.  Without a label there is no panel. -/
def setUp (settings : Settings) (files : FileTree) : Except Label Switchboard :=
  match Label.missing? settings with
  | some label => .error label
  | none => .ok (start settings (.file files) []).switchboard

/-- **More flags**, saved behind those that are there. -/
def stock (flags : List Flag) (s : Switchboard) : Switchboard :=
  ((perform (.change (.saveAll (.ok flags)))).run s).2

/-- **Watching names** by callbacks that do nothing. -/
def watch (names : List Text) (s : Switchboard) : Switchboard :=
  ((names.forM fun name => do let _ ← perform (.subscribe name name none []) : Action Unit).run s).2

/-- **An exchange**: a response, and the values that callbacks received meanwhile. -/
structure Exchange where
  response : Response
  events : List (Text × Bool)

/-- Answering a request, and seeing what callbacks receive. -/
def exchange (settings : Settings) (r : Request) : Action Exchange := do
  let before := (← get).history.length
  let response ← respond settings r
  let s ← get
  return ⟨response, s.shown (s.history.drop before)⟩

/-- **Answering requests in order.** -/
def exchanges (settings : Settings) (rs : List Request) : Action (List Exchange) :=
  rs.mapM (exchange settings)

/-! ## Feeds -/

/-- **What happens beside a feed** before it goes on: changes, a request, the reader's leaving.  An
impatient step lasts until the feed has looked for its reader. -/
structure FeedStep where
  changes : List Change
  request : Option Request
  disconnects : Bool
  patient : Bool

/-- What a feed shows after a step: the events sent, whether it has ended, and how many listen to
the flag. -/
structure FeedRow where
  events : List (List Char)
  ended : Bool
  listeners : Nat

/-- What a feed sends when it goes on, and what it has become; where none was opened, none is
there. -/
def goOn (patient : Bool) : Option Feed → Action (List (List Char) × Option Feed)
  | none => return ([], none)
  | some feed => do
    let (events, feed) ← feed.advance patient
    return (events, some feed)

/-- What a feed shows after it has sent events. -/
def feedRow (events : List (List Char)) : Option Feed → Action FeedRow
  | none => return ⟨events, true, 0⟩
  | some feed => return ⟨events, feed.ended, ((← get).attached feed.name).length⟩

/-- Whether the panel has to wait before it answers a request: it asks for flags, and its body, if
that is needed, can be read. -/
def takesTime (r : Request) : Bool :=
  match Route.find r.method (Target.path r.target) with
  | .call .health => false
  | .call .create => r.isReadable
  | .call (.replace _) => r.isReadable
  | .call _ => true
  | _ => false

/-- Doing a step beside a feed.  The feed goes on while the panel waits, and at the end. -/
def feedStep (settings : Settings) (feed : Option Feed) (st : FeedStep) :
    Action (FeedRow × Option Feed) := do
  st.changes.forM fun c => do let _ ← perform (.change c)
  let (before, feed) ← match st.request with
    | none => pure ([], feed)
    | some r => do
      let (events, feed) ← if takesTime r then goOn true feed else pure ([], feed)
      let _ ← respond settings r
      pure (events, feed)
  let (after, feed) ← goOn st.patient (if st.disconnects then feed.map Feed.disconnect else feed)
  return (← feedRow (before ++ after) feed, feed)

/-- **Doing steps beside a feed in order**, as long as none fails. -/
def feedRows (settings : Settings) : Option Feed → List FeedStep → Action (List FeedRow)
  | _, [] => return []
  | feed, st :: steps => do
    let (row, feed) ← feedStep settings feed st
    return row :: (← feedRows settings feed steps)

/-- What comes of asking for a feed: the events it opens with, or a response of another kind. -/
inductive Opening where
  | feed (events : List (List Char))
  | response (r : Response)

/-- **A feed from its opening on**, and what it shows after each step. -/
def runFeed (settings : Settings) (r : Request) (steps : List FeedStep) :
    Action (Opening × List FeedRow) := do
  match Route.find r.method (Target.path r.target) with
  | .call (.stream name) => do
    let feed ← Feed.start name
    let (events, feed) ← feed.advance true
    return (.feed events, ← feedRows settings (some feed) steps)
  | _ => do
    let response ← respond settings r
    return (.response response, ← feedRows settings none steps)

end Panel

end FeatureFlags

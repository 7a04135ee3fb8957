import FeatureFlags.Panel.Exchange
import FeatureFlags.Proofs.Switchboard.LatestValue
import FeatureFlags.Proofs.Switchboard.Private

/-!
# Proofs/Panel/Feeds — what a feed sends, and how it ends

A feed looks, heeds its wait, or gives it up; beside it anything may happen that leaves its inbox to
it.  In whatever order this is done (`Feed.follow`), the feed holds a private inbox (`Tends`), and
what it has sent is what was read from that inbox (`Feed.Course`).  So what it sends is a faithful
view of the flag, and when its reader is gone nothing of it is left (`Feed.start_faithful`).  What a
panel does to let a feed go on is one such order (`advance_follows`).
-/

namespace FeatureFlags

open Switchboard

/-- The wait that is current for a feed. -/
def Feed.current? (feed : Feed) : Option WaitId :=
  match feed.state with
  | .waiting w => some w
  | _ => none

/-- **What may be done next**, by a feed, to it or beside it. -/
inductive FeedMove where
  | beside (m : Move)
  | look
  | heed
  | timeOut
  | disconnect

namespace FeedMove

/-- What is sent by a move, and what becomes of the feed. -/
def act (feed : Feed) : FeedMove → Action (List Bool × Feed)
  | .beside m => do
    modify m.after
    return ([], feed)
  | .look => return ([], ← feed.look)
  | .heed => feed.heed
  | .timeOut => return ([], ← feed.timeOut)
  | .disconnect => return ([], feed.disconnect)

/-- **A fair move** leaves the inbox of the feed to the feed. -/
def Fair (feed : Feed) (s : Switchboard) : FeedMove → Prop
  | .beside m => m.Fair s ∧ m.Leaves feed.inbox feed.current?
  | _ => True

end FeedMove

namespace Feed

/-- **Following moves** one after the other: all that is sent, and what becomes of the feed. -/
def follow : List FeedMove → Feed → Action (List Bool × Feed)
  | [], feed => return ([], feed)
  | m :: ms, feed => do
    let (sent, feed) ← m.act feed
    let (more, feed) ← follow ms feed
    return (sent ++ more, feed)

/-- All moves are fair, each where it is made. -/
def Fair : List FeedMove → Feed → Switchboard → Prop
  | [], _, _ => True
  | m :: ms, feed, s => m.Fair feed s ∧ ∀ sent feed' s',
      (m.act feed).run s = (.ok (sent, feed'), s') → Fair ms feed' s'

/-- **A feed tends its inbox**: it is private to the feed, open until the feed has ended, and that
does not happen as long as the reader is there. -/
structure Tends (feed : Feed) (s : Switchboard) : Prop where
  inbox : s.Private feed.inbox feed.current? feed.ended
  stays : feed.connected = true → feed.ended = false

/-- **What a feed did comes to moves**: what was read from its inbox by them was sent, unless it is
held. -/
structure Course (feed : Feed) (s : Switchboard) (sent : List Bool) (feed' : Feed)
    (ms : List Move) : Prop where
  fair : Switchboard.Fair ms s
  tends : feed'.Tends (play ms s)
  name : feed'.name = feed.name
  inbox : feed'.inbox = feed.inbox
  values : held s feed.current? ++ valuesOf feed.inbox (log ms s)
    = sent ++ held (play ms s) feed'.current?

variable {feed feed' feed'' : Feed} {s s' s'' : Switchboard} {sent sent' : List Bool}
  {ms ms' : List Move} {fms fms' : List FeedMove} {w : WaitId}

namespace Course

theorem refl (h : feed.Tends s) : Course feed s [] feed [] :=
  ⟨trivial, h, rfl, rfl, List.append_nil _⟩

theorem trans (h : Course feed s sent feed' ms) (h' : Course feed' (play ms s) sent' feed'' ms') :
    Course feed s (sent ++ sent') feed'' (ms ++ ms') := by
  refine ⟨fair_append.2 ⟨h.fair, h'.fair⟩, ?_, h'.name.trans h.name, h'.inbox.trans h.inbox, ?_⟩
  · rw [play_append]
    exact h'.tends
  · have hvalues' := h'.values
    rw [h.inbox] at hvalues'
    rw [log_append, valuesOf_append, play_append, ← List.append_assoc, h.values,
      List.append_assoc, hvalues', List.append_assoc]

end Course

/-! ## One move -/

theorem run_silent {a : Action Feed} (h : a.run s = (.ok feed', s')) :
    (do return (([] : List Bool), ← a) : Action _).run s = (.ok ([], feed'), s') := by
  rw [run_bind, h]
  rfl

theorem run_stop (feed : Feed) (s : Switchboard) :
    feed.stop.run s = (.ok { feed with state := .ended }, after (shut feed.inbox) s) := by
  rw [stop, run_bind, after, run_shut]
  rfl

theorem run_look_of_connected (hs : feed.state = .looking) (hc : feed.connected = true) :
    feed.look.run s
      = (.ok { feed with state := .waiting s.waits.length }, s.startWait feed.inbox) := by
  rw [look, hs]
  dsimp only
  rw [if_pos hc]
  rfl

theorem run_look_of_gone (hs : feed.state = .looking) (hc : feed.connected = false) :
    feed.look.run s = (.ok { feed with state := .ended }, after (shut feed.inbox) s) := by
  rw [look, hs]
  dsimp only
  rw [if_neg (by rw [hc]; exact Bool.false_ne_true), run_stop]

theorem run_look_of_ne (hs : feed.state ≠ .looking) : feed.look.run s = (.ok feed, s) := by
  rw [look]
  cases h : feed.state with
  | looking => exact absurd h hs
  | waiting | ended => rfl

/-- **Looking** begins a wait or ends the feed. -/
theorem course_look (h : feed.Tends s) :
    ∃ feed' ms, feed.look.run s = (.ok feed', play ms s) ∧ Course feed s [] feed' ms := by
  by_cases hs : feed.state = .looking
  · have hcurrent : feed.current? = none := by rw [current?, hs]
    have hended : feed.ended = false := by rw [ended, hs]; rfl
    have hinbox := h.inbox
    rw [hcurrent, hended] at hinbox
    cases hc : feed.connected with
    | true =>
      obtain ⟨hprivate, hheld⟩ := hinbox.begin
      refine ⟨_, [.wait feed.inbox], run_look_of_connected hs hc, ⟨hinbox.lt_length, trivial⟩,
        ⟨hprivate, fun _ => rfl⟩, rfl, rfl, ?_⟩
      rw [hcurrent]
      exact hheld.symm
    | false =>
      refine ⟨_, [.shut feed.inbox], run_look_of_gone hs hc,
        ⟨hinbox.stands.not_isCallback, trivial⟩, ⟨hinbox.shut, fun hc' => ?_⟩, rfl, rfl, ?_⟩
      · exact nomatch hc.symm.trans hc'
      · rw [hcurrent]
        rfl
  · exact ⟨feed, [], run_look_of_ne hs, .refl h⟩

/-- A feed that waits has a private inbox, which is open. -/
theorem Tends.inbox_of_waiting (h : feed.Tends s) (hs : feed.state = .waiting w) :
    s.Private feed.inbox (some w) false := by
  have hinbox := h.inbox
  have hended : feed.ended = false := by rw [ended, hs]; rfl
  rwa [hended, current?, hs] at hinbox

/-- The wait of a feed that waits is not over, or it is over with a value. -/
theorem Tends.waiting (h : feed.Tends s) (hs : feed.state = .waiting w) :
    ∃ state, s.waits[w]? = some ⟨feed.inbox, state⟩ ∧
      (state.isLive = true ∨ ∃ value, state = .over (some value)) := by
  obtain ⟨state, hw, ha, hopen⟩ := (h.inbox_of_waiting hs).current rfl
  refine ⟨state, hw, ?_⟩
  cases state with
  | parked | due => exact .inl rfl
  | abandoned => exact absurd rfl ha
  | _ =>
    rename_i read
    cases read with
    | none => exact absurd rfl (hopen rfl)
    | some value => exact .inr ⟨value, rfl⟩

theorem held_of_waiting {state : WaitState} (hs : feed.state = .waiting w)
    (hw : s.waits[w]? = some ⟨feed.inbox, state⟩) :
    held s feed.current? = (Wait.value? ⟨feed.inbox, state⟩).toList := by
  rw [current?, hs, held, Option.bind_some, hw]
  rfl

theorem run_heed_of_live {i : ListenerId} {state : WaitState} (hs : feed.state = .waiting w)
    (hw : s.waits[w]? = some ⟨i, state⟩) (hlive : state.isLive = true) :
    feed.heed.run s = (.ok ([], feed), s) := by
  rw [heed, hs]
  dsimp only
  rw [run_bind, run_get]
  dsimp only
  rw [hw]
  cases state with
  | parked | due => rfl
  | _ => cases hlive

theorem run_heed_of_over {i : ListenerId} {value : Bool} (hs : feed.state = .waiting w)
    (hw : s.waits[w]? = some ⟨i, .over (some value)⟩) :
    feed.heed.run s = (.ok ([value], { feed with state := .looking }), s) := by
  rw [heed, hs]
  dsimp only
  rw [run_bind, run_get]
  dsimp only
  rw [hw]
  rfl

/-- **Heeding** sends what is held. -/
theorem course_heed (h : feed.Tends s) :
    ∃ sent feed', feed.heed.run s = (.ok (sent, feed'), s) ∧ Course feed s sent feed' [] := by
  cases hs : feed.state with
  | looking | ended =>
    refine ⟨[], feed, ?_, .refl h⟩
    rw [heed, hs]
    rfl
  | waiting w =>
    obtain ⟨state, hw, hlive | ⟨value, rfl⟩⟩ := h.waiting hs
    · exact ⟨[], feed, run_heed_of_live hs hw hlive, .refl h⟩
    · refine ⟨[value], { feed with state := .looking }, run_heed_of_over hs hw, trivial,
        ⟨(h.inbox_of_waiting hs).heed hw, fun _ => rfl⟩, rfl, rfl, ?_⟩
      rw [held_of_waiting hs hw]
      rfl

theorem run_timeOut_of_live {i : ListenerId} {state : WaitState} (hs : feed.state = .waiting w)
    (hw : s.waits[w]? = some ⟨i, state⟩) (hlive : state.isLive = true) :
    feed.timeOut.run s = (.ok { feed with state := .looking }, s.setWait w .abandoned) := by
  rw [timeOut, hs]
  dsimp only
  rw [run_bind, run_get]
  dsimp only
  rw [hw]
  cases state with
  | parked | due => rfl
  | _ => cases hlive

theorem run_timeOut_of_over {i : ListenerId} {read : Option Bool} (hs : feed.state = .waiting w)
    (hw : s.waits[w]? = some ⟨i, .over read⟩) : feed.timeOut.run s = (.ok feed, s) := by
  rw [timeOut, hs]
  dsimp only
  rw [run_bind, run_get]
  dsimp only
  rw [hw]
  rfl

/-- **Giving up a wait** sends nothing, and loses nothing. -/
theorem course_timeOut (h : feed.Tends s) :
    ∃ feed' ms, feed.timeOut.run s = (.ok feed', play ms s) ∧ Course feed s [] feed' ms ∧
      play ms s = { s with waits := (play ms s).waits } ∧
      held (play ms s) feed'.current? = held s feed.current? := by
  cases hs : feed.state with
  | looking | ended =>
    refine ⟨feed, [], ?_, .refl h, rfl, rfl⟩
    rw [timeOut, hs]
    rfl
  | waiting w =>
    obtain ⟨state, hw, hlive | ⟨value, rfl⟩⟩ := h.waiting hs
    · have hheld : held s feed.current? = [] := by
        rw [held_of_waiting hs hw]
        cases state with
        | parked | due => rfl
        | _ => cases hlive
      refine ⟨{ feed with state := .looking }, [.abandon w], run_timeOut_of_live hs hw hlive,
        ⟨⟨fun i value hover => ?_, trivial⟩, ⟨(h.inbox_of_waiting hs).giveUp, fun _ => rfl⟩, rfl,
          rfl, ?_⟩, rfl, hheld.symm⟩
      · obtain ⟨-, rfl⟩ := Wait.mk.inj (Option.some.inj (hw.symm.trans hover))
        cases hlive
      · rw [hheld]
        rfl
    · exact ⟨feed, [], run_timeOut_of_over hs hw, .refl h, rfl, rfl⟩

/-- **A move is made**, which never fails. -/
theorem course_act (h : feed.Tends s) {m : FeedMove} (hm : m.Fair feed s) :
    ∃ sent feed' ms, (m.act feed).run s = (.ok (sent, feed'), play ms s) ∧
      Course feed s sent feed' ms := by
  cases m with
  | beside m =>
    obtain ⟨hprivate, hheld⟩ := h.inbox.move hm.1 hm.2
    refine ⟨[], feed, [m], rfl, ⟨hm.1, trivial⟩, ⟨hprivate, h.stays⟩, rfl, rfl, ?_⟩
    rw [log, log, List.append_nil]
    exact hheld.symm
  | look =>
    obtain ⟨feed', ms, hrun, hcourse⟩ := course_look h
    exact ⟨[], feed', ms, run_silent hrun, hcourse⟩
  | heed =>
    obtain ⟨sent, feed', hrun, hcourse⟩ := course_heed h
    exact ⟨sent, feed', [], hrun, hcourse⟩
  | timeOut =>
    obtain ⟨feed', ms, hrun, hcourse, -⟩ := course_timeOut h
    exact ⟨[], feed', ms, run_silent hrun, hcourse⟩
  | disconnect =>
    have htends : feed.disconnect.Tends s := ⟨h.inbox, fun hc => by cases hc⟩
    exact ⟨[], feed.disconnect, [], rfl, trivial, htends, rfl, rfl, List.append_nil _⟩

/-! ## Moves one after the other -/

/-- **Moves are followed** without failing, and come to moves of the switchboard. -/
theorem course_follow (h : feed.Tends s) (hfms : Fair fms feed s) :
    ∃ sent feed' ms, (follow fms feed).run s = (.ok (sent, feed'), play ms s) ∧
      Course feed s sent feed' ms := by
  induction fms generalizing feed s with
  | nil => exact ⟨[], feed, [], rfl, .refl h⟩
  | cons m fms ih =>
    obtain ⟨sent, feed', ms, hrun, hcourse⟩ := course_act h hfms.1
    obtain ⟨more, feed'', ms', hrun', hcourse'⟩ := ih hcourse.tends (hfms.2 _ _ _ hrun)
    refine ⟨sent ++ more, feed'', ms ++ ms', ?_, hcourse.trans hcourse'⟩
    rw [follow, run_bind, hrun, play_append]
    dsimp only
    rw [run_bind, hrun']
    rfl

/-! ## Opening -/

/-- The entrance of a feed's inbox. -/
def entrance (name : Text) : Entrance :=
  ⟨name, none, .inbox name .running none false, .observation, []⟩

theorem run_enterAsync {react : React} (name : Text) (hworker : s.onWorker = false) :
    (enterAsync react name none .running).run s = (.ok s.listeners.length,
      handed react (s.present name none) s.listeners.length (s.entered (entrance name))) := by
  have hworker' : (s.ensure name (s.roster.isEnabled name)).onWorker = false := by
    unfold ensure
    split <;> exact hworker
  have hvalue := value_entered (entrance name) s
  simp only [enterAsync, initialValue, run_bind, run_get, run_modify, run_pure, Option.getD_none,
    hworker', and_false, if_false, Bool.false_eq_true]
  rw [run_enter react rfl, listeners_ensure]
  exact congrArg (fun value => (Except.ok s.listeners.length,
    handed react value s.listeners.length (s.entered (entrance name)))) hvalue

/-- What is handed to an inbox of the running loop is on its way. -/
theorem handed_inbox {react : React} {l : ListenerId} {value : Bool} {topic : Text}
    {unread : Option Bool} {closed : Bool}
    (hx : s.listener? l = some (.inbox topic .running unread closed)) :
    handed react value l s = (s.deliver l value).enqueue l value := by
  rw [handed, after]
  simp only [hand, getListener, run_bind, run_get, run_pure, hx]
  rfl

/-- **Opening a feed**: it looks, and its inbox is new and private. -/
theorem run_start (hs : s.Sound) (hplaced : s.Placed) (hworker : s.onWorker = false)
    (name : Text) :
    ∃ s', (start name).run s = (.ok ⟨name, s.listeners.length, true, .looking⟩, s') ∧
      s'.Fresh s.listeners.length name (s.present name none) ∧
      Tends ⟨name, s.listeners.length, true, .looking⟩ s' ∧
      s'.listeners = s.listeners ++ [.inbox name .running none false] := by
  have hinbox : (s.entered (entrance name)).listener? s.listeners.length
      = some (.inbox name .running none false) := by
    rw [listener?, listeners_entered, List.getElem?_concat_length]
    rfl
  have hspares : Spares s.listeners.length s (s.entered (entrance name)) := .entered _ s
  have ho : (Operation.observeAsync [] name none .running).entrance? = some (entrance name) := rfl
  have hfresh := fresh_entered hs ho lawful_idle (.inr rfl)
  have hprivate : (s.entered (entrance name)).Private s.listeners.length none false := by
    refine ⟨⟨name, none, hinbox⟩, fun id hn => ?_, fun {w state} hw hlive => ?_,
      fun hc => by cases hc⟩
    · rw [named?_entered] at hn
      exact hs.orderly.unnamed_length id hn
    · refine absurd ?_ (Nat.lt_irrefl s.listeners.length)
      rcases hspares.waits w with he | ⟨i, hp, hd⟩
      · exact hplaced w _ state (he.symm.trans hw)
      · obtain ⟨rfl, -⟩ := Wait.mk.inj (Option.some.inj (hd.symm.trans hw))
        exact hplaced w _ .parked hp
  rw [handed_inbox hinbox] at hfresh
  have hqueued : Spares s.listeners.length (s.entered (entrance name))
      (((s.entered (entrance name)).deliver s.listeners.length (s.present name none)).enqueue
        s.listeners.length (s.present name none)) := .aside rfl rfl rfl
  refine ⟨_, ?_, hfresh, ⟨(hprivate.spared hqueued).1, fun _ => rfl⟩,
    listeners_entered (entrance name) s⟩
  rw [start, run_bind, run_get]
  dsimp only
  rw [run_bind, run_enterAsync name hworker, handed_inbox hinbox]
  rfl

/-! ## How a panel lets a feed go on -/

/-- **Fair moves, and what they come to.** -/
structure Follows (fms : List FeedMove) (feed : Feed) (s : Switchboard) (sent : List Bool)
    (feed' : Feed) (s' : Switchboard) : Prop where
  fair : Fair fms feed s
  run : (follow fms feed).run s = (.ok (sent, feed'), s')

namespace Follows

theorem nil (feed : Feed) (s : Switchboard) : Follows [] feed s [] feed s := ⟨trivial, rfl⟩

theorem cons {m : FeedMove} (hm : m.Fair feed s)
    (hrun : (m.act feed).run s = (.ok (sent, feed'), s'))
    (h : Follows fms feed' s' sent' feed'' s'') :
    Follows (m :: fms) feed s (sent ++ sent') feed'' s'' := by
  refine ⟨⟨hm, fun sent₁ feed₁ s₁ hrun₁ => ?_⟩, ?_⟩
  · obtain ⟨hok, rfl⟩ := Prod.mk.inj (hrun.symm.trans hrun₁)
    obtain ⟨rfl, rfl⟩ := Prod.mk.inj (Except.ok.inj hok)
    exact h.fair
  · rw [follow, run_bind, hrun]
    dsimp only
    rw [run_bind, h.run]
    rfl

theorem single {m : FeedMove} (hm : m.Fair feed s)
    (hrun : (m.act feed).run s = (.ok (sent, feed'), s')) :
    Follows [m] feed s sent feed' s' := by
  have h := cons hm hrun (nil feed' s')
  rwa [List.append_nil] at h

/-- The first of some moves apart from the others. -/
theorem exists_of_cons {m : FeedMove} (h : Follows (m :: fms) feed s sent feed' s') :
    ∃ sent₁ feed₁ s₁ more, (m.act feed).run s = (.ok (sent₁, feed₁), s₁) ∧
      Follows fms feed₁ s₁ more feed' s' ∧ sent = sent₁ ++ more := by
  obtain ⟨⟨-, hfair⟩, hrun⟩ := h
  rw [follow, run_bind] at hrun
  rcases hact : (m.act feed).run s with ⟨_ | ⟨sent₁, feed₁⟩, s₁⟩
  · rw [hact] at hrun
    cases hrun
  · rw [hact] at hrun
    dsimp only at hrun
    rw [run_bind] at hrun
    rcases hfollow : (follow fms feed₁).run s₁ with ⟨_ | ⟨more, feed₂⟩, s₂⟩
    · rw [hfollow] at hrun
      cases hrun
    · rw [hfollow] at hrun
      cases hrun
      exact ⟨sent₁, feed₁, s₁, more, rfl, ⟨hfair _ _ _ hact, hfollow⟩, rfl⟩

theorem append (h : Follows fms feed s sent feed' s')
    (h' : Follows fms' feed' s' sent' feed'' s'') :
    Follows (fms ++ fms') feed s (sent ++ sent') feed'' s'' := by
  induction fms generalizing feed s sent with
  | nil =>
    cases h.run
    exact h'
  | cons m fms ih =>
    obtain ⟨sent₁, feed₁, s₁, more, hact, htail, rfl⟩ := h.exists_of_cons
    rw [List.append_assoc]
    exact cons h.fair.1 hact (ih htail)

/-- A feed that tends its inbox goes on to do so. -/
theorem tends (h : Follows fms feed s sent feed' s') (ht : feed.Tends s) :
    feed'.Tends s' ∧ feed'.name = feed.name := by
  obtain ⟨sent₁, feed₁, ms, hrun, hcourse⟩ := course_follow ht h.fair
  rw [h.run] at hrun
  cases hrun
  exact ⟨hcourse.tends, hcourse.name⟩

end Follows

/-- The event loop runs until it is idle. -/
theorem follows_settle (feed : Feed) (s : Switchboard) :
    ∃ fms, Follows fms feed s [] feed s.settle := by
  have hturns (n : Nat) : ∃ fms, Follows fms feed s [] feed (Nat.repeat turn n s) := by
    induction n with
    | zero => exact ⟨[], .nil feed s⟩
    | succ n ih =>
      obtain ⟨fms, h⟩ := ih
      exact ⟨_, h.append (.single (m := .beside .turn) ⟨trivial, trivial⟩ rfl)⟩
  exact hturns _

theorem follows_look (h : feed.Tends s) :
    ∃ feed' s', Follows [.look] feed s [] feed' s' ∧ feed.look.run s = (.ok feed', s') := by
  obtain ⟨feed', ms, hrun, -⟩ := course_look h
  exact ⟨feed', _, .single trivial (run_silent hrun), hrun⟩

theorem follows_heed (h : feed.Tends s) :
    ∃ sent feed', Follows [.heed] feed s sent feed' s ∧
      feed.heed.run s = (.ok (sent, feed'), s) := by
  obtain ⟨sent, feed', hrun, -⟩ := course_heed h
  exact ⟨sent, feed', .single trivial hrun, hrun⟩

theorem follows_timeOut (h : feed.Tends s) :
    ∃ feed' s', Follows [.timeOut] feed s [] feed' s' ∧ feed.timeOut.run s = (.ok feed', s') := by
  obtain ⟨feed', ms, hrun, -⟩ := course_timeOut h
  exact ⟨feed', _, .single trivial (run_silent hrun), hrun⟩

/-- Going on, part by part. -/
theorem run_pump {feed₁ feed₂ : Feed} {t t' : Switchboard}
    (hheed : feed.heed.run s.settle = (.ok (sent, feed₁), t))
    (hlook : feed₁.look.run t = (.ok feed₂, t')) : feed.pump.run s = (.ok (sent, feed₂), t') := by
  rw [pump, run_bind, run_modify]
  dsimp only
  rw [run_bind, hheed]
  dsimp only
  rw [run_bind, hlook]
  rfl

/-- Going on once the event loop is idle. -/
theorem follows_pump (h : feed.Tends s) :
    ∃ fms sent feed' s', Follows fms feed s sent feed' s' ∧
      feed.pump.run s = (.ok (sent, feed'), s') := by
  obtain ⟨fms, hsettle⟩ := follows_settle feed s
  obtain ⟨sent, feed₁, hheed, hrun⟩ := follows_heed (hsettle.tends h).1
  have hsent := hsettle.append hheed
  obtain ⟨feed₂, s₂, hlook, hrun'⟩ := follows_look (hsent.tends h).1
  refine ⟨_, _, _, _, hsent.append hlook, ?_⟩
  rw [List.nil_append, List.append_nil]
  exact run_pump hrun hrun'

section

variable {first second : List Bool} {feed₁ feed₂ feed₃ feed₄ : Feed}
  {s₁ s₂ s₃ s₄ : Switchboard} (hfirst : feed.pump.run s = (.ok (first, feed₁), s₁))
  (hsecond : feed₁.pump.run s₁ = (.ok (second, feed₂), s₂))

include hfirst hsecond

theorem run_advance_patient : (feed.advance true).run s
    = (.ok ((first ++ second).map (frame feed₂.name), feed₂), s₂.settle) := by
  rw [advance, run_bind, hfirst]
  dsimp only
  rw [run_bind, hsecond]
  rfl

theorem run_advance_impatient (htimeOut : feed₂.timeOut.run s₂ = (.ok feed₃, s₃))
    (hlook : feed₃.look.run s₃ = (.ok feed₄, s₄)) : (feed.advance false).run s
    = (.ok ((first ++ second).map (frame feed₄.name), feed₄), s₄.settle) := by
  rw [advance, run_bind, hfirst]
  dsimp only
  rw [run_bind, hsecond]
  dsimp only
  rw [if_neg Bool.false_ne_true, run_bind, htimeOut]
  dsimp only
  rw [run_bind, hlook]
  rfl

end

/-- **What a panel does** to let a feed go on is to follow fair moves. -/
theorem advance_follows (h : feed.Tends s) (patient : Bool) :
    ∃ fms sent feed' s', Follows fms feed s sent feed' s' ∧
      (feed.advance patient).run s = (.ok (sent.map (frame feed.name), feed'), s') := by
  obtain ⟨fms, first, feed₁, s₁, hfirst, hrun₁⟩ := follows_pump h
  obtain ⟨fms', second, feed₂, s₂, hsecond, hrun₂⟩ := follows_pump (hfirst.tends h).1
  have hboth := hfirst.append hsecond
  cases patient with
  | true =>
    obtain ⟨_, hsettle⟩ := follows_settle feed₂ s₂
    have hall := hboth.append hsettle
    rw [List.append_nil] at hall
    refine ⟨_, _, _, _, hall, ?_⟩
    rw [← (hall.tends h).2]
    exact run_advance_patient hrun₁ hrun₂
  | false =>
    obtain ⟨feed₃, s₃, htimeOut, hrun₃⟩ := follows_timeOut (hboth.tends h).1
    obtain ⟨feed₄, s₄, hlook, hrun₄⟩ := follows_look (htimeOut.tends (hboth.tends h).1).1
    obtain ⟨_, hsettle⟩ := follows_settle feed₄ s₄
    have hall := hboth.append ((htimeOut.append hlook).append hsettle)
    rw [List.append_nil, List.append_nil, List.append_nil] at hall
    refine ⟨_, _, _, _, hall, ?_⟩
    rw [← (hall.tends h).2]
    exact run_advance_impatient hrun₁ hrun₂ hrun₃ hrun₄

/-! ## What a feed sends, and how it ends -/

/-- **A feed has caught up**: its reader is there, nothing is on its way to its inbox, nothing in it
is unread, and nothing that was read has yet to be sent. -/
structure CaughtUp (feed : Feed) (s : Switchboard) : Prop where
  connected : feed.connected = true
  coming : s.coming feed.inbox = []
  unread : s.unread? feed.inbox = none
  held : held s feed.current? = []

namespace Course

/-- What was read for a feed that looked first, and what became of it. -/
theorem valuesOf_eq (h : Course feed s sent feed' ms) (hlooking : feed.current? = none) :
    valuesOf feed.inbox (log ms s) = sent ++ held (play ms s) feed'.current? := by
  have hvalues := h.values
  rwa [hlooking, held, Option.bind_none, Option.toList_none, List.nil_append] at hvalues

section

variable {name : Text} {value : Bool} (h : Course feed s sent feed' ms)
  (hfresh : s.Fresh feed.inbox name value) (hlooking : feed.current? = none)

include h hfresh hlooking

/-- **What a feed has sent** since its inbox was new is taken from what its flag was given. -/
theorem sent_sublist :
    sent.Sublist (value :: given name ((play ms s).history.drop s.history.length)) := by
  have hfaithful := hfresh.faithful h.fair
  have hsent := List.sublist_append_left sent (held (play ms s) feed'.current?)
  rw [← h.valuesOf_eq hlooking] at hsent
  exact (hsent.trans hfaithful.read).trans hfaithful.handed.sublist

/-- **A feed that has caught up** has sent the present value last. -/
theorem last_sent (hcaught : feed'.CaughtUp (play ms s)) :
    ∃ present, (play ms s).value? name = some present ∧ sent.getLast? = some present := by
  obtain ⟨hconnected, hcoming, hunread, hheld⟩ := hcaught
  have hopen := h.tends.inbox.stands.isShut_eq
  rw [h.inbox] at hcoming hunread hopen
  rw [h.tends.stays hconnected] at hopen
  obtain ⟨present, hpresent, hlast⟩ := hfresh.last_read h.fair hopen hcoming hunread
  rw [h.valuesOf_eq hlooking, hheld, List.append_nil] at hlast
  exact ⟨present, hpresent, hlast⟩

end

end Course

/-- **A listener is gone**: it is taken from wherever it was attached, and all others are as they
were. -/
structure Gone (l : ListenerId) (s s' : Switchboard) : Prop where
  absent : ∀ topic, l ∉ s'.attached topic
  attached : ∀ topic, s'.attached topic = (s.attached topic).erase l
  others : ∀ i, i ≠ l → s'.listener? i = s.listener? i

theorem gone_shut (hs : Orderly s) {l : ListenerId} (hl : s.Stands l false) :
    Gone l s (after (shut l) s) := by
  obtain ⟨name, unread, hx⟩ := hl
  have hattached (topic : Text) :
      (after (shut l) s).attached topic = (s.attached topic).erase l := by
    rw [after, run_shut, hx]
    exact hs.attached_detach hx rfl topic
  refine ⟨fun topic => ?_, hattached, fun i hi => ?_⟩
  · rw [hattached]
    exact (hs.nodup topic).not_mem_erase
  · rw [after, run_shut, hx]
    change (s.modifyListener l (·.close)).listener? i = s.listener? i
    rw [listener?_modifyListener, if_neg hi]

/-- A feed that looks when its reader is gone ends, and its inbox is gone. -/
theorem Tends.look_gone (h : feed.Tends s) (hs : Orderly s) (hlooking : feed.state = .looking)
    (hc : feed.connected = false) :
    ∃ s', feed.look.run s = (.ok { feed with state := .ended }, s') ∧ Gone feed.inbox s s' := by
  have hended : feed.ended = false := by rw [ended, hlooking]; rfl
  have hstands := h.inbox.stands
  rw [hended] at hstands
  exact ⟨_, run_look_of_gone hlooking hc, gone_shut hs hstands⟩

/-- A feed that has ended is attached nowhere. -/
theorem Tends.not_mem_attached (h : feed.Tends s) (hs : Orderly s) (hended : feed.ended = true)
    (topic : Text) : feed.inbox ∉ s.attached topic := by
  intro hl
  obtain ⟨x, hx, -, hc⟩ := hs.member hl
  obtain ⟨name, unread, hstands⟩ := h.inbox.stands
  obtain rfl := Option.some.inj ((kind?_of_listener? hstands).symm.trans hx)
  exact nomatch hended.symm.trans hc

/-- Asking for a feed opens it, and lets it go on once before anything else. -/
theorem run_runFeed (h : feed.Tends s') (hstart : (start feed.name).run s = (.ok feed, s'))
    (settings : Settings) {r : Request} (steps : List Panel.FeedStep)
    (hroute : Route.find r.method (Target.path r.target) = .call (.stream feed.name)) :
    ∃ fms sent feed' s'', Follows fms feed s' sent feed' s'' ∧
      (Panel.runFeed settings r steps).run s = (do
        return (Panel.Opening.feed (sent.map (frame feed.name)),
          ← Panel.feedRows settings (some feed') steps) : Action _).run s'' := by
  obtain ⟨fms, sent, feed', s'', hfollows, hrun⟩ := advance_follows h true
  refine ⟨fms, sent, feed', s'', hfollows, ?_⟩
  rw [Panel.runFeed, hroute]
  dsimp only
  rw [run_bind, hstart]
  dsimp only
  rw [run_bind, hrun]

/-- **What a feed sends is a faithful view of its flag**, in whatever order it goes on and things
happen beside it: it is taken from the value the flag had when the feed was opened and those it was
given since then, in their order and none twice, and once the feed has caught up the value sent last
is the present one.  Giving up a wait changes nothing but waits, and loses nothing that was read.
If the reader is gone when the feed looks, the feed ends, its inbox is gone and all other listeners
are as they were.  A request for the feed opens it and lets it go on, which is one such order, as is
whatever a panel does to let it go on. -/
theorem start_faithful {roster : Roster} {ms₀ : List Move}
    (hms₀ : Switchboard.Fair ms₀ (ofRoster roster))
    (hworker : (play ms₀ (ofRoster roster)).onWorker = false) (name : Text) :
    let s₀ := play ms₀ (ofRoster roster)
    ∃ feed₁ s₁, (start name).run s₀ = (.ok feed₁, s₁) ∧
      (∀ settings (r : Request) steps,
        Route.find r.method (Target.path r.target) = .call (.stream name) →
        ∃ fms sent feed s, Follows fms feed₁ s₁ sent feed s ∧
          (Panel.runFeed settings r steps).run s₀ = (do
            return (Panel.Opening.feed (sent.map (frame name)),
              ← Panel.feedRows settings (some feed) steps) : Action _).run s) ∧
      ∀ fms, Fair fms feed₁ s₁ → ∃ sent feed s, (follow fms feed₁).run s₁ = (.ok (sent, feed), s) ∧
        sent.Sublist (s₀.present name none :: given name (s.history.drop s₁.history.length)) ∧
        (feed.CaughtUp s →
          ∃ present, s.value? name = some present ∧ sent.getLast? = some present) ∧
        (∃ feed' s', feed.timeOut.run s = (.ok feed', s') ∧ s' = { s with waits := s'.waits } ∧
          held s' feed'.current? = held s feed.current?) ∧
        (feed.state = .looking → feed.connected = false →
          ∃ s', feed.look.run s = (.ok { feed with state := .ended }, s') ∧
            Gone feed.inbox s s') ∧
        (feed.ended = true → ∀ topic, feed.inbox ∉ s.attached topic) ∧
        ∀ patient, ∃ fms' more feed' s', Follows fms' feed s more feed' s' ∧
          (feed.advance patient).run s = (.ok (more.map (frame name), feed'), s') := by
  intro s₀
  have hsound : s₀.Sound := (Sound.ofRoster roster).play hms₀
  have hplaced : s₀.Placed := Placed.play nofun (Orderly.ofRoster roster) hms₀
  obtain ⟨s₁, hstart, hfresh, htends, -⟩ := run_start hsound hplaced hworker name
  refine ⟨_, s₁, hstart, fun settings r steps => run_runFeed htends hstart settings steps,
    fun fms hfms => ?_⟩
  obtain ⟨sent, feed, ms, hrun, hcourse⟩ := course_follow htends hfms
  have horderly := (hfresh.sound.play hcourse.fair).orderly
  refine ⟨sent, feed, _, hrun, hcourse.sent_sublist hfresh rfl, hcourse.last_sent hfresh rfl, ?_,
    ?_, ?_, fun patient => ?_⟩
  · obtain ⟨feed', ms', htimeOut, -, hwaits, hheld⟩ := course_timeOut hcourse.tends
    exact ⟨feed', _, htimeOut, hwaits, hheld⟩
  · exact hcourse.tends.look_gone horderly
  · exact hcourse.tends.not_mem_attached horderly
  · rw [show name = feed.name from hcourse.name.symm]
    exact advance_follows hcourse.tends patient

/-- Moves that are fair wherever they are made. -/
theorem fair_of_forall (h : ∀ m ∈ fms, ∀ feed s, FeedMove.Fair feed s m) : Fair fms feed s := by
  induction fms generalizing feed s with
  | nil => trivial
  | cons m fms ih =>
    obtain ⟨hm, hfms⟩ := List.forall_mem_cons.1 h
    exact ⟨hm feed s, fun _ _ _ _ => ih hfms⟩

/-- A value is published while the feed waits, and arrives when it has given up its wait: it is sent
by the next one.  Then the reader is gone. -/
theorem start_faithful_timedOut :
    let idle : React := fun _ _ => pure ()
    let fms : List FeedMove := [.beside .turn, .look, .beside .turn, .heed, .look, .beside .turn,
      .beside (.operate idle (.publish "f" true)), .timeOut, .beside .turn, .look, .beside .turn,
      .disconnect, .heed, .look]
    ∃ feed₁ s₁ sent feed s, (start "f").run (ofRoster []) = (.ok feed₁, s₁) ∧
      Fair fms feed₁ s₁ ∧ (follow fms feed₁).run s₁ = (.ok (sent, feed), s) ∧
      sent = [false, true] ∧ feed.ended = true ∧ feed.inbox ∉ s.attached "f" := by
  intro idle fms
  obtain ⟨feed₁, s₁, hstart, -, hfaithful⟩ := @start_faithful [] [] trivial rfl "f"
  have hturn (feed : Feed) (s : Switchboard) : FeedMove.Fair feed s (.beside .turn) :=
    ⟨trivial, trivial⟩
  have hpublish (feed : Feed) (s : Switchboard) :
      FeedMove.Fair feed s (.beside (.operate idle (.publish "f" true))) :=
    ⟨⟨lawful_idle, rfl, nofun⟩, trivial⟩
  have hfms : Fair fms feed₁ s₁ := by
    refine fair_of_forall ?_
    simp only [fms, List.forall_mem_cons]
    refine ⟨hturn, ?_, hturn, ?_, ?_, hturn, hpublish, ?_, hturn, ?_, hturn, ?_, ?_, ?_, nofun⟩
    all_goals exact fun _ _ => trivial
  obtain ⟨sent, feed, s, hrun, -, -, -, -, hended, -⟩ := hfaithful fms hfms
  have hall : (start "f" >>= follow fms).run (ofRoster []) = (.ok (sent, feed), s) := by
    rw [run_bind, show (start "f").run (ofRoster []) = (.ok feed₁, s₁) from hstart]
    exact hrun
  have hsent : (outcome (start "f" >>= follow fms) (ofRoster [])).toOption.map
      (fun x => (x.1, x.2.ended)) = some ([false, true], true) := by decide +kernel
  rw [outcome, hall] at hsent
  obtain ⟨hvalues, hend⟩ := Prod.mk.inj (Option.some.inj hsent)
  exact ⟨feed₁, s₁, sent, feed, s, hstart, hfms, hrun, hvalues, hend, hended hend "f"⟩

end Feed

end FeatureFlags

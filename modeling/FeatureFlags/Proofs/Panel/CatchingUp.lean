import FeatureFlags.Proofs.Panel.Feeds
import FeatureFlags.Proofs.Switchboard.Settling

/-!
# Proofs/Panel/CatchingUp — a feed that has gone on has caught up, or has ended

    settle ──▸ heed ──▸ look ──▸ settle ──▸ heed ──▸ look ──▸ settle

When the loop is idle nothing is on its way to the inbox of a feed, but a value may have arrived
after the one that the feed is about to send.  It is unread when the feed looks again (`Nears`), and
has been read when the loop is idle for the second time.  So then the feed has caught up, and it
stays so while it looks or gives up its wait (`advance_caughtUp`).  A feed whose reader is gone ends
as soon as it looks, and when it has given up its wait it looks (`advance_gone`).
-/

namespace FeatureFlags

open Switchboard

namespace Feed

variable {feed feed' : Feed} {s s' : Switchboard} {sent : List Bool} {fms : List FeedMove}
  {w : WaitId}

/-- **A feed attends to its reader**: the reader is there, and nobody sleeps over what there is for
it. -/
structure Attends (feed : Feed) (s : Switchboard) : Prop where
  connected : feed.connected = true
  tends : feed.Tends s
  alert : s.Alert feed.inbox

namespace Attends

/-- The inbox is open. -/
theorem inbox (h : feed.Attends s) : s.Private feed.inbox feed.current? false := by
  have hinbox := h.tends.inbox
  rwa [h.tends.stays h.connected] at hinbox

theorem not_ended (h : feed.Attends s) : feed.state ≠ .ended := by
  have hended := h.tends.stays h.connected
  rw [ended, decide_eq_false_iff_not] at hended
  exact hended

theorem settle (h : feed.Attends s) : feed.Attends s.settle :=
  ⟨h.connected, ⟨h.tends.inbox.settle, h.tends.stays⟩, h.alert.settle⟩

end Attends

/-- A feed that tends its inbox goes on to be alert. -/
theorem Follows.alert (h : Follows fms feed s sent feed' s') (ht : feed.Tends s)
    (ha : s.Alert feed.inbox) : s'.Alert feed'.inbox := by
  obtain ⟨_, _, ms, hrun, hcourse⟩ := course_follow ht h.fair
  rw [h.run] at hrun
  cases hrun
  rw [hcourse.inbox]
  exact hcourse.fair.mild.alerts ha

/-! ## What each step of a feed comes to -/

/-- The wait of a feed goes on. -/
def Waits (feed : Feed) (s : Switchboard) : Prop :=
  ∃ w state, feed.state = .waiting w ∧ s.waits[w]? = some ⟨feed.inbox, state⟩ ∧
    state.isLive = true

/-- **What is so when a feed has heeded its wait**: it holds nothing, and looks, has ended or waits
on. -/
structure Heeded (feed feed' : Feed) (s : Switchboard) : Prop where
  tends : feed'.Tends s
  connected : feed'.connected = feed.connected
  inbox : feed'.inbox = feed.inbox
  held : Switchboard.held s feed'.current? = []
  state : feed'.state = .looking ∨ feed'.state = .ended ∨ feed'.Waits s

theorem exists_heeded (h : feed.Tends s) :
    ∃ sent feed', feed.heed.run s = (.ok (sent, feed'), s) ∧ feed.Heeded feed' s := by
  cases hs : feed.state with
  | looking | ended =>
    refine ⟨[], feed, ?_, h, rfl, rfl, ?_, ?_⟩
    · rw [heed, hs]
      rfl
    · rw [current?, hs]
      rfl
    · rw [hs]
      simp only [true_or, or_true]
  | waiting w =>
    obtain ⟨state, hw, hlive | ⟨value, rfl⟩⟩ := h.waiting hs
    · refine ⟨[], feed, run_heed_of_live hs hw hlive, h, rfl, rfl, ?_,
        .inr (.inr ⟨w, state, hs, hw, hlive⟩)⟩
      rw [held_of_waiting hs hw]
      cases state with
      | parked | due => rfl
      | _ => cases hlive
    · exact ⟨[value], { feed with state := .looking }, run_heed_of_over hs hw,
        ⟨(h.inbox_of_waiting hs).heed hw, fun _ => rfl⟩, rfl, rfl, rfl, .inl rfl⟩

theorem Heeded.attends (hf : feed.Heeded feed' s) (h : feed.Attends s) : feed'.Attends s :=
  ⟨hf.connected.trans h.connected, hf.tends, hf.inbox ▸ h.alert⟩

/-- **A feed looks while its reader is there**: it begins to wait, or it waits already. -/
theorem look_cases (h : feed.Attends s) :
    (feed.state = .looking ∧ ∃ feed', feed.look.run s = (.ok feed', s.startWait feed.inbox) ∧
      feed'.Attends (s.startWait feed.inbox) ∧ feed'.inbox = feed.inbox ∧
      feed'.current? = some s.waits.length) ∨
    (feed.state ≠ .looking ∧ feed.look.run s = (.ok feed, s)) := by
  by_cases hs : feed.state = .looking
  · have hinbox := h.inbox
    rw [current?, hs] at hinbox
    exact .inl ⟨hs, _, run_look_of_connected hs h.connected,
      ⟨h.connected, ⟨hinbox.begin.1, fun _ => rfl⟩, Alerts.startWait _ s h.alert⟩, rfl, rfl⟩
  · exact .inr ⟨hs, run_look_of_ne hs⟩

/-! ## Catching up -/

/-- **A feed is about to catch up**: what was read has been sent, and what is unread is read when
the loop has become idle. -/
structure Nears (feed : Feed) (s : Switchboard) : Prop where
  attends : feed.Attends s
  draining : s.Draining feed.inbox feed.current?

/-- **Going on once** brings a feed near. -/
theorem pump_nears (h : feed.Attends s) :
    ∃ sent feed' s', feed.pump.run s = (.ok (sent, feed'), s') ∧ feed'.Nears s' := by
  obtain ⟨sent, feed₁, hheed, hheeded⟩ := exists_heeded h.settle.tends
  have h₁ := hheeded.attends h.settle
  have hidle := queue_settle s
  have hcoming : s.settle.coming feed₁.inbox = [] := coming_of_idle hidle
  obtain ⟨-, feed₂, hlook, h₂, hinbox, hcurrent⟩ | ⟨hlooking, hlook⟩ := look_cases h₁
  · refine ⟨sent, feed₂, _, run_pump hheed hlook, h₂, ?_, .inr ⟨_, hcurrent, due?_eq_some.2 ?_⟩⟩
    · rw [hinbox, coming_startWait]
      exact hcoming
    · rw [hinbox]
      exact List.getElem?_concat_length
  · -- the wait is not due, since the loop is idle, and so it is parked
    refine ⟨sent, feed₁, _, run_pump hheed hlook, h₁, hcoming, .inl ?_⟩
    obtain hended | ⟨w, state, -, hw, hlive⟩ := hheeded.state.resolve_left hlooking
    · exact absurd hended h₁.not_ended
    · cases state with
      | parked => exact h₁.alert.parked hw
      | due => exact absurd (due?_eq_some.2 hw) (h₁.alert.not_due hidle w)
      | _ => cases hlive

namespace CaughtUp

/-- A feed that has caught up stays so while the loop runs. -/
theorem settle (h : feed.CaughtUp s) (ha : feed.Attends s) : feed.CaughtUp s.settle := by
  obtain ⟨hunread, hheld⟩ := ha.inbox.settle_of_empty h.coming h.unread
  exact ⟨h.connected, coming_of_idle (queue_settle s), hunread, hheld.trans h.held⟩

/-- It may look. -/
theorem look (h : feed.CaughtUp s) (ha : feed.Attends s) :
    ∃ feed' s', feed.look.run s = (.ok feed', s') ∧ feed'.Attends s' ∧ feed'.CaughtUp s' := by
  obtain ⟨hlooking, feed', hrun, ha', hinbox, hcurrent⟩ | ⟨-, hrun⟩ := look_cases ha
  · refine ⟨feed', _, hrun, ha', ha'.connected, ?_, ?_, ?_⟩
    · rw [hinbox, coming_startWait]
      exact h.coming
    · rw [hinbox]
      exact h.unread
    · have hinbox := ha.inbox
      rw [current?, hlooking] at hinbox
      rw [hcurrent]
      exact hinbox.begin.2
  · exact ⟨feed, s, hrun, ha, h⟩

/-- It may give up its wait. -/
theorem timeOut (h : feed.CaughtUp s) (ha : feed.Attends s) :
    ∃ feed' s', feed.timeOut.run s = (.ok feed', s') ∧ feed'.Attends s' ∧ feed'.CaughtUp s' := by
  cases hs : feed.state with
  | looking | ended =>
    refine ⟨feed, s, ?_, ha, h⟩
    rw [Feed.timeOut, hs]
    rfl
  | waiting w =>
    obtain ⟨state, hw, hlive | ⟨value, rfl⟩⟩ := ha.tends.waiting hs
    · exact ⟨_, _, run_timeOut_of_live hs hw hlive,
        ⟨ha.connected, ⟨(ha.tends.inbox_of_waiting hs).giveUp, fun _ => rfl⟩,
          Alerts.endWait rfl ha.alert⟩, ha.connected, h.coming, h.unread, rfl⟩
    · exact ⟨feed, s, run_timeOut_of_over hs hw, ha, h⟩

end CaughtUp

/-- **Going on once more**, a feed catches up. -/
theorem Nears.pump_caughtUp (h : feed.Nears s) :
    ∃ sent feed' s', feed.pump.run s = (.ok (sent, feed'), s') ∧ feed'.Attends s' ∧
      feed'.CaughtUp s' := by
  have ha := h.attends
  obtain ⟨sent, feed₁, hheed, hheeded⟩ := exists_heeded ha.settle.tends
  have h₁ := hheeded.attends ha.settle
  have hunread := h.draining.unread?_settle ha.inbox ha.alert
  rw [← hheeded.inbox] at hunread
  have hcaught : feed₁.CaughtUp s.settle :=
    ⟨h₁.connected, coming_of_idle (queue_settle s), hunread, hheeded.held⟩
  obtain ⟨feed₂, s₂, hlook, h₂, hcaught'⟩ := hcaught.look h₁
  exact ⟨sent, feed₂, s₂, run_pump hheed hlook, h₂, hcaught'⟩

/-- **When a feed has gone on it has caught up**, if its reader is there. -/
theorem advance_caughtUp (h : feed.Attends s) (patient : Bool) :
    ∃ events feed' s', (feed.advance patient).run s = (.ok (events, feed'), s') ∧
      feed'.Attends s' ∧ feed'.CaughtUp s' := by
  obtain ⟨first, feed₁, s₁, hfirst, hnears⟩ := pump_nears h
  obtain ⟨second, feed₂, s₂, hsecond, h₂, hcaught⟩ := hnears.pump_caughtUp
  cases patient with
  | true =>
    exact ⟨_, feed₂, _, run_advance_patient hfirst hsecond, h₂.settle, hcaught.settle h₂⟩
  | false =>
    obtain ⟨feed₃, s₃, htimeOut, h₃, hcaught₃⟩ := hcaught.timeOut h₂
    obtain ⟨feed₄, s₄, hlook, h₄, hcaught₄⟩ := hcaught₃.look h₃
    exact ⟨_, feed₄, _, run_advance_impatient hfirst hsecond htimeOut hlook, h₄.settle,
      hcaught₄.settle h₄⟩

/-! ## Ending -/

/-- Once its reader is gone a feed that has gone on has ended, unless it waits. -/
theorem pump_gone (h : feed.Tends s) (hc : feed.connected = false) :
    ∃ sent feed' s', feed.pump.run s = (.ok (sent, feed'), s') ∧ feed'.Tends s' ∧
      feed'.connected = false ∧ (feed'.state = .ended ∨ feed'.Waits s') := by
  have hsettle : feed.Tends s.settle := ⟨h.inbox.settle, h.stays⟩
  obtain ⟨sent, feed₁, hheed, hheeded⟩ := exists_heeded hsettle
  have hc₁ := hheeded.connected.trans hc
  by_cases hs : feed₁.state = .looking
  · obtain ⟨feed₂, ms, hlook, hcourse⟩ := course_look hheeded.tends
    obtain ⟨hfeed, -⟩ := Prod.mk.inj ((run_look_of_gone hs hc₁).symm.trans hlook)
    obtain rfl := Except.ok.inj hfeed
    exact ⟨sent, _, _, run_pump hheed hlook, hcourse.tends, hc₁, .inl rfl⟩
  · exact ⟨sent, feed₁, _, run_pump hheed (run_look_of_ne hs), hheeded.tends, hc₁,
      hheeded.state.resolve_left hs⟩

/-- **A feed whose reader is gone has ended** when it has gone on and given up its wait. -/
theorem advance_gone (h : feed.Tends s) (hc : feed.connected = false) (patient : Bool) :
    ∃ events feed' s', (feed.advance patient).run s = (.ok (events, feed'), s') ∧
      feed'.connected = false ∧ (patient = false → feed'.state = .ended) := by
  obtain ⟨first, feed₁, s₁, hfirst, h₁, hc₁, -⟩ := pump_gone h hc
  obtain ⟨second, feed₂, s₂, hsecond, h₂, hc₂, hstate⟩ := pump_gone h₁ hc₁
  cases patient with
  | true => exact ⟨_, feed₂, _, run_advance_patient hfirst hsecond, hc₂, fun hp => by cases hp⟩
  | false =>
    obtain hended | ⟨w, state, hs, hw, hlive⟩ := hstate
    · have htimeOut : feed₂.timeOut.run s₂ = (.ok feed₂, s₂) := by
        rw [timeOut, hended]
        rfl
      have hlook : feed₂.look.run s₂ = (.ok feed₂, s₂) :=
        run_look_of_ne fun hs => by cases hended.symm.trans hs
      exact ⟨_, feed₂, _, run_advance_impatient hfirst hsecond htimeOut hlook, hc₂, fun _ => hended⟩
    · exact ⟨_, _, _, run_advance_impatient hfirst hsecond (run_timeOut_of_live hs hw hlive)
        (run_look_of_gone rfl hc₂), hc₂, fun _ => rfl⟩

/-- **What is so when a feed has gone on**: if its reader is there it has caught up, and if the
reader is gone and the feed has given up its wait it has ended. -/
structure GoneOn (feed : Feed) (stays patient : Bool) (s : Switchboard) : Prop where
  connected : feed.connected = stays
  caughtUp : stays = true → feed.CaughtUp s
  ended : stays = false → patient = false → feed.state = .ended

/-- **Going on**, whether the reader is there or not. -/
theorem advance_goneOn (h : feed.Tends s) (ha : s.Alert feed.inbox) (patient : Bool) :
    ∃ events feed' s', (feed.advance patient).run s = (.ok (events, feed'), s') ∧
      feed'.GoneOn feed.connected patient s' := by
  cases hc : feed.connected with
  | true =>
    obtain ⟨events, feed', s', hrun, h', hcaught⟩ := advance_caughtUp ⟨hc, h, ha⟩ patient
    exact ⟨events, feed', s', hrun, h'.connected, fun _ => hcaught, nofun⟩
  | false =>
    obtain ⟨events, feed', s', hrun, hc', hended⟩ := advance_gone h hc patient
    exact ⟨events, feed', s', hrun, hc', nofun, fun _ => hended⟩

end Feed

end FeatureFlags

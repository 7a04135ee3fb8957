import FeatureFlags.Proofs.Panel.CatchingUp
import FeatureFlags.Proofs.Panel.Eligibility
import FeatureFlags.Proofs.Switchboard.Performing

/-!
# Proofs/Panel/Steps — what a panel does beside a feed

    changes ──▸ request, and the feed goes on meanwhile ──▸ the reader leaves ──▸ the feed goes on

A request changes the flags and leaves records, and does nothing else.  If all that callbacks do is
to fail, a change is a fair move, and so is to leave a record; so whatever is done beside a feed
comes to fair moves, whether it fails or not (`beside_respond`).  What a panel does step by step,
the feed included, is then to follow fair moves (`Goes`), and the events that it shows are those of
the values that the feed has sent by them (`goes_feedRows`).  So the reader of a feed is shown the
values of the flag, up to the present one (`runFeed_shows`).
-/

namespace FeatureFlags

namespace Switchboard

variable {α : Type} {s s' : Switchboard}

/-! ## Beside an inbox -/

/-- All that scripts come to is to fail. -/
def Meek (s : Switchboard) : Prop := s.within fun _ => false

/-- **What is done beside an inbox** comes to fair moves that leave it to its holder, whoever that
is. -/
def Beside (s s' : Switchboard) : Prop :=
  s.Meek → s'.Meek ∧
    ∃ ms, Fair ms s ∧ (∀ m ∈ ms, ∀ l current, m.Leaves l current) ∧ play ms s = s'

instance : Std.Refl Beside := ⟨fun _ hs => ⟨hs, [], trivial, nofun, rfl⟩⟩

instance : Trans Beside Beside Beside where
  trans := by
    intro s s' s'' h h' hs
    obtain ⟨hs', ms, hfair, hleaves, rfl⟩ := h hs
    obtain ⟨hs'', ms', hfair', hleaves', rfl⟩ := h' hs'
    refine ⟨hs'', ms ++ ms', fair_append.2 ⟨hfair, hfair'⟩, fun m hm => ?_, play_append ms ms' s⟩
    exact (List.mem_append.1 hm).elim (hleaves m) (hleaves' m)

theorem Beside.of_move {m : Move} (hm : s.Meek → m.Fair s) (hl : ∀ l current, m.Leaves l current)
    (hs' : s.Meek → (m.after s).Meek) : Beside s (m.after s) := by
  intro hs
  exact ⟨hs' hs, [m], ⟨hm hs, trivial⟩, fun m' hm' => List.mem_singleton.1 hm' ▸ hl, rfl⟩

theorem Beside.recorded (h : Recorded s s') : Beside s s' := by
  have hafter : s' = (Move.record s'.records).after s := h
  rw [hafter]
  exact .of_move (fun _ => trivial) (fun _ _ => trivial) id

theorem Keeps.beside {a : Action α} (h : Keeps Recorded a) : Keeps Beside a :=
  fun s => .recorded (h s)

/-- **A change of the flags** is a fair move, if all that callbacks do is to fail. -/
theorem beside_change (c : Change) : Keeps Beside (perform (.change c)) := by
  intro s hs
  have hperforms : Performs quiet (fun _ => false) perform :=
    performs_perform fun _ _ ho => absurd ho Bool.false_ne_true
  obtain ⟨react, hreact, heq, hmeek⟩ := hperforms (o := .change c) rfl hs
  have hafter : after (perform (.change c)) s = (Move.operate react (.change c)).after s :=
    congrArg Prod.snd heq
  rw [hafter] at hmeek ⊢
  exact Beside.of_move (fun _ => ⟨hreact, rfl, nofun⟩) (fun _ _ => trivial) (fun _ => hmeek) hs

end Switchboard

namespace Panel

open Switchboard

variable {settings : Settings} {r : Request}

/-! ## Requests -/

theorem beside_hostRow (f : Flag) : Keeps Beside (hostRow settings f) :=
  (recorded_hostRow settings f).beside

/-- A row for the host, once the flags have changed. -/
theorem beside_answerRow (status : Nat) (f : Flag) :
    Keeps Beside (do return .of status (← hostRow settings f) : Action Response) :=
  .of_bind (beside_hostRow f) fun _ => .of_pure _

theorem beside_refuse (x : Fault) : Keeps Beside (refuse x) :=
  .of_bind (recorded_note _ _).beside fun _ => .of_pure _

theorem beside_list : Keeps Beside (list settings) :=
  .of_get fun s => .of_bind (.of_mapM beside_hostRow s.roster) fun _ => .of_pure _

theorem beside_create : Keeps Beside (create settings r) := by
  unfold create
  cases r.read (Flag.decode .modelAttributesType) with
  | error => exact .of_pure _
  | ok f => exact .of_bind (beside_change _) fun _ => beside_answerRow _ f

theorem beside_read (name : Text) : Keeps Beside (read settings name r) := by
  unfold read
  cases r.level with
  | error => exact .of_pure _
  | ok level =>
    refine .of_get fun s => ?_
    cases s.roster.get? name with
    | none => exact beside_refuse _
    | some f =>
      exact .of_bind (.of_bind (recorded_eligibility _ _ _).beside fun _ => .of_pure _)
        fun _ => .of_pure _

theorem beside_replace (name : Text) : Keeps Beside (replace settings name r) := by
  unfold replace
  cases r.read Replacement.decode with
  | error => exact .of_pure _
  | ok replacement =>
    refine .of_get fun s => ?_
    dsimp only
    split
    · exact .of_bind (beside_change _) fun _ => beside_answerRow _ _
    · exact beside_refuse _

theorem beside_toggle (name : Text) : Keeps Beside (toggle settings name) := by
  refine .of_get fun s => ?_
  cases s.roster.get? name with
  | none => exact beside_refuse _
  | some f =>
    exact .of_bind (beside_change _) fun _ => .of_bind (recorded_note _ _).beside fun _ =>
      beside_answerRow _ _

theorem beside_answer (c : Call) : Keeps Beside (answer settings r c) := by
  cases c with
  | health => exact .of_get fun _ => .of_pure _
  | list => exact beside_list
  | create => exact beside_create
  | clear => exact .of_bind (beside_change _) fun _ => .of_pure _
  | read name => exact beside_read name
  | replace name => exact beside_replace name
  | toggle name => exact beside_toggle name
  | stream => exact .of_pure _

/-- **A request changes the flags and leaves records**, and does nothing else. -/
theorem beside_respond (settings : Settings) (r : Request) : Keeps Beside (respond settings r) := by
  refine .of_bind ?_ fun response => ?_
  · unfold reply
    cases Route.find r.method (Target.path r.target) with
    | unknown | wrongMethod | redirection => exact .of_pure _
    | call c => exact beside_answer c
  · cases response.body.send with
    | ok => exact .of_pure _
    | error u => exact .of_throw _

end Panel

namespace Feed

open Switchboard Panel

variable {α β : Type} {feed feed' feed'' : Feed} {s s' s'' : Switchboard} {sent sent' : List Bool}
  {fms : List FeedMove} {x : Action α} {settings : Settings}

/-! ## What a feed does to scripts -/

section

variable {p : Operation → Bool}

theorem alongside_stop (feed : Feed) : Alongside p feed.stop feed.stop :=
  .of_bind (alongside_shut feed.inbox) fun _ => .of_pure _

theorem alongside_look (feed : Feed) : Alongside p feed.look feed.look := by
  unfold look
  cases feed.state with
  | waiting | ended => exact .of_pure feed
  | looking =>
    dsimp only
    split
    · refine .of_get fun s => .of_bind (.of_unnoticed (.of_modify fun t => ?_)) fun _ => .of_pure _
      exact ⟨rfl, rfl, rfl, rfl, rfl⟩
    · exact alongside_stop feed

theorem alongside_heed (feed : Feed) : Alongside p feed.heed feed.heed := by
  unfold heed
  cases feed.state with
  | looking | ended => exact .of_pure ([], feed)
  | waiting w =>
    refine .of_get fun s => ?_
    split
    · exact .of_pure _
    · exact .of_bind (alongside_stop feed) fun _ => .of_pure _
    · exact .of_pure _

theorem alongside_timeOut (feed : Feed) : Alongside p feed.timeOut feed.timeOut := by
  unfold timeOut
  cases feed.state with
  | looking | ended => exact .of_pure feed
  | waiting w =>
    refine .of_get fun s => ?_
    split
    · exact .of_pure feed
    · exact .of_bind (.of_unnoticed (.of_modify (Alike.setWait w _))) fun _ => .of_pure _

theorem alongside_pump (feed : Feed) : Alongside p feed.pump feed.pump :=
  .of_bind (.of_unnoticed (.of_modify Alike.settle)) fun _ =>
    .of_bind (alongside_heed feed) fun _ => .of_bind (alongside_look _) fun _ => .of_pure _

theorem alongside_advance (feed : Feed) (patient : Bool) :
    Alongside p (feed.advance patient) (feed.advance patient) := by
  have hsettle : Alongside p (modify settle) (modify settle) :=
    .of_unnoticed (.of_modify Alike.settle)
  refine .of_bind (alongside_pump feed) fun _ => .of_bind (alongside_pump _) fun _ => ?_
  cases patient with
  | true => exact .of_bind (.of_pure _) fun _ => .of_bind hsettle fun _ => .of_pure _
  | false =>
    exact .of_bind (alongside_timeOut _) fun feed => .of_bind (alongside_look feed) fun _ =>
      .of_bind hsettle fun _ => .of_pure _

end

/-! ## Following moves, whatever is done -/

/-- **A feed is ready to go on.** -/
structure Ready (feed : Feed) (s : Switchboard) : Prop where
  tends : feed.Tends s
  alert : s.Alert feed.inbox
  meek : s.Meek

/-- **An action follows fair moves** of a feed and beside it, whether it fails or not.  If it does
not fail, its answer suits what is sent meanwhile and what the feed has become. -/
def Goes (x : Action α) (feed : Feed) (s : Switchboard)
    (suits : α → List Bool → Feed → Switchboard → Prop) : Prop :=
  ∃ result fms sent feed' s', x.run s = (result, s') ∧ Follows fms feed s sent feed' s' ∧
    feed'.Ready s' ∧ ∀ a, result = .ok a → suits a sent feed' s'

namespace Goes

variable {suits : α → List Bool → Feed → Switchboard → Prop}
  {suits' : β → List Bool → Feed → Switchboard → Prop}

/-- An action that does not fail. -/
theorem of_run {a : α} (hrun : x.run s = (.ok a, s')) (h : Follows fms feed s sent feed' s')
    (hready : feed'.Ready s') (hsuits : suits a sent feed' s') : Goes x feed s suits := by
  refine ⟨_, fms, sent, feed', s', hrun, h, hready, fun b hb => ?_⟩
  cases hb
  exact hsuits

theorem of_pure {a : α} (hready : feed.Ready s) (hsuits : suits a [] feed s) :
    Goes (pure a) feed s suits := of_run (run_pure a s) (.nil feed s) hready hsuits

/-- **One action after the other.** -/
theorem bind {f : α → Action β} (hready : feed.Ready s) (hx : Goes x feed s suits)
    (hf : ∀ {a sent feed' s'}, suits a sent feed' s' → feed'.Ready s' → feed'.name = feed.name →
      Goes (f a) feed' s' fun b more => suits' b (sent ++ more)) :
    Goes (x >>= f) feed s suits' := by
  obtain ⟨result, fms, sent, feed', s', hrun, hfollows, hready', hsuits⟩ := hx
  cases result with
  | error e =>
    refine ⟨.error e, fms, sent, feed', s', ?_, hfollows, hready', nofun⟩
    rw [run_bind, hrun]
  | ok a =>
    obtain ⟨result, fms', more, feed'', s'', hrun', hfollows', hready'', hsuits'⟩ :=
      hf (hsuits a rfl) hready' (hfollows.tends hready.tends).2
    refine ⟨result, fms ++ fms', sent ++ more, feed'', s'', ?_, hfollows.append hfollows',
      hready'', hsuits'⟩
    rw [run_bind, hrun]
    exact hrun'

theorem imp (hx : Goes x feed s suits) {suits' : α → List Bool → Feed → Switchboard → Prop}
    (h : ∀ {a sent feed' s'}, suits a sent feed' s' → suits' a sent feed' s') :
    Goes x feed s suits' := by
  obtain ⟨result, fms, sent, feed', s', hrun, hfollows, hready, hsuits⟩ := hx
  exact ⟨result, fms, sent, feed', s', hrun, hfollows, hready, fun a ha => h (hsuits a ha)⟩

/-- What is done beside a feed sends nothing. -/
theorem of_beside (hready : feed.Ready s) (hx : Keeps Beside x) :
    Goes x feed s fun _ sent feed' _ => sent = [] ∧ feed' = feed := by
  obtain ⟨hmeek, ms, hfair, hleaves, hplay⟩ := hx s hready.meek
  have hbeside : ∃ fms, Follows fms feed s [] feed (after x s) := by
    rw [← hplay]
    clear hplay hmeek hready
    induction ms generalizing s with
    | nil => exact ⟨[], .nil feed s⟩
    | cons m ms ih =>
      obtain ⟨hm, hms⟩ := List.forall_mem_cons.1 hleaves
      obtain ⟨fms, h⟩ := ih hfair.2 hms
      exact ⟨_, .cons (m := .beside m) ⟨hfair.1, hm _ _⟩ rfl h⟩
  obtain ⟨fms, h⟩ := hbeside
  exact ⟨outcome x s, fms, [], feed, after x s, rfl, h,
    ⟨(h.tends hready.tends).1, h.alert hready.tends hready.alert, hmeek⟩, fun _ _ => ⟨rfl, rfl⟩⟩

/-- The reader may have left before. -/
theorem of_disconnect (h : Goes x feed.disconnect s suits) : Goes x feed s suits := by
  obtain ⟨result, fms, sent, feed', s', hrun, hfollows, hready, hsuits⟩ := h
  exact ⟨result, _, sent, feed', s', hrun, .cons (m := .disconnect) trivial rfl hfollows, hready,
    hsuits⟩

end Goes

theorem Ready.disconnect (h : feed.Ready s) : feed.disconnect.Ready s :=
  ⟨⟨h.tends.inbox, nofun⟩, h.alert, h.meek⟩

/-! ## Going on -/

/-- **A feed that goes on** gives the events that it sends. -/
theorem goes_advance (h : feed.Ready s) (patient : Bool) :
    Goes (feed.advance patient) feed s fun a sent feed' s' =>
      a = (sent.map (frame feed.name), feed') ∧ feed'.GoneOn feed.connected patient s' := by
  obtain ⟨fms, sent, feed', s', hfollows, hrun⟩ := advance_follows h.tends patient
  have hmeek := (alongside_advance feed patient s h.meek).2
  rw [after, hrun] at hmeek
  refine .of_run hrun hfollows ⟨(hfollows.tends h.tends).1, hfollows.alert h.tends h.alert, hmeek⟩
    ⟨rfl, ?_⟩
  obtain ⟨events, feed'', s'', hrun', hgone⟩ := advance_goneOn h.tends h.alert patient
  rw [hrun] at hrun'
  cases hrun'
  exact hgone

theorem goes_goOn (h : feed.Ready s) (patient : Bool) :
    Goes (goOn patient (some feed)) feed s fun a sent feed' s' =>
      a = (sent.map (frame feed.name), some feed') ∧
        feed'.GoneOn feed.connected patient s' := by
  refine (goes_advance h patient).bind h ?_
  rintro _ sent feed' s' ⟨rfl, hgone⟩ hready -
  refine .of_pure hready ⟨?_, hgone⟩
  rw [List.append_nil]

/-- What is shown of a feed when a step is done. -/
theorem goes_feedRow (h : feed.Ready s) (events : List (List Char)) :
    Goes (feedRow events (some feed)) feed s fun a sent feed' s' =>
      a = ⟨events, feed.ended, (s.attached feed.name).length⟩ ∧ sent = [] ∧ feed' = feed ∧
        s' = s :=
  .of_run (run_bind _ _ _) (.nil feed s) h ⟨rfl, rfl, rfl, rfl⟩

/-- A feed goes on at the end of a step, before which its reader may leave. -/
theorem goes_goOn_of_step (h : feed.Ready s) (st : FeedStep) :
    Goes (goOn st.patient (if st.disconnects then (some feed).map disconnect else some feed)) feed s
      fun a sent feed' s' => a = (sent.map (frame feed.name), some feed') ∧
        feed'.GoneOn (feed.connected && !st.disconnects) st.patient s' := by
  cases hd : st.disconnects with
  | true =>
    rw [Bool.not_true, Bool.and_false]
    exact (goes_goOn h.disconnect st.patient).of_disconnect
  | false =>
    rw [Bool.not_false, Bool.and_true]
    exact goes_goOn h st.patient

/-- What a step comes to once the request has been answered. -/
theorem goes_finish (h : feed.Ready s) (st : FeedStep) (before : List (List Char)) :
    Goes (goOn st.patient (if st.disconnects then (some feed).map disconnect else some feed)
        >>= fun x => feedRow (before ++ x.1) x.2 >>= fun row => pure (row, x.2)) feed s
      fun a sent feed' s' =>
        a = (⟨before ++ sent.map (frame feed.name), feed'.ended,
          (s'.attached feed.name).length⟩, some feed') ∧
        feed'.GoneOn (feed.connected && !st.disconnects) st.patient s' := by
  refine (goes_goOn_of_step h st).bind h ?_
  rintro _ sent feed₁ s₁ ⟨rfl, hgone⟩ h₁ hname
  refine (goes_feedRow h₁ _).bind h₁ ?_
  rintro _ _ _ _ ⟨rfl, rfl, rfl, rfl⟩ h₂ -
  refine .of_pure h₂ ⟨?_, hgone⟩
  rw [List.append_nil, List.append_nil, hname]

/-- **A step beside a feed** shows what is sent by it, whether the feed has ended and how many
listen to its flag then. -/
theorem goes_feedStep (h : feed.Ready s) (settings : Settings) (st : FeedStep) :
    Goes (feedStep settings (some feed) st) feed s fun a sent feed' s' =>
      a = (⟨sent.map (frame feed.name), feed'.ended, (s'.attached feed.name).length⟩,
        some feed') ∧
      feed'.GoneOn (feed.connected && !st.disconnects) st.patient s' := by
  have hchanges : Keeps Beside (st.changes.forM fun c => do let _ ← perform (.change c)) :=
    .of_forM (fun c => .of_bind (beside_change c) fun _ => .of_pure _) st.changes
  unfold feedStep
  refine (Goes.of_beside h hchanges).bind h ?_
  rintro _ _ _ s₁ ⟨rfl, rfl⟩ h₁ -
  cases st.request with
  | none =>
    dsimp only
    rw [pure_bind]
    exact goes_finish h₁ st []
  | some r =>
    dsimp only
    split
    · -- the feed goes on while the panel waits
      refine (goes_goOn h₁ true).bind h₁ ?_
      rintro _ before feed₁ s₂ ⟨rfl, hgone⟩ h₂ hname
      refine (Goes.of_beside h₂ (beside_respond settings r)).bind h₂ ?_
      rintro _ _ _ s₃ ⟨rfl, rfl⟩ h₃ -
      rw [pure_bind]
      refine (goes_finish h₃ st _).imp ?_
      rintro _ after feed' s' ⟨rfl, hgone'⟩
      rw [hgone.connected] at hgone'
      refine ⟨?_, hgone'⟩
      rw [List.nil_append, List.nil_append, List.map_append, hname]
    · rw [pure_bind]
      refine (Goes.of_beside h₁ (beside_respond settings r)).bind h₁ ?_
      rintro _ _ _ s₂ ⟨rfl, rfl⟩ h₂ -
      rw [pure_bind]
      exact goes_finish h₂ st []

/-- **Steps beside a feed** show what is sent by them, one after the other; and if the reader stays,
a feed that had caught up has caught up afterwards. -/
theorem goes_feedRows (h : feed.Ready s) (settings : Settings) (steps : List FeedStep) :
    Goes (feedRows settings (some feed) steps) feed s fun rows sent feed' s' =>
      rows.flatMap (·.events) = sent.map (frame feed.name) ∧
      (feed.CaughtUp s → (∀ st ∈ steps, st.disconnects = false) → feed'.CaughtUp s') := by
  induction steps generalizing feed s with
  | nil => exact .of_pure h ⟨rfl, fun hcaught _ => hcaught⟩
  | cons st steps ih =>
    rw [feedRows]
    refine (goes_feedStep h settings st).bind h ?_
    rintro _ sent feed₁ s₁ ⟨rfl, hgone⟩ h₁ hname
    refine (ih h₁).bind h₁ ?_
    rintro rows more feed₂ s₂ ⟨hrows, hcaught'⟩ h₂ -
    refine .of_pure h₂ ⟨?_, fun hfirst hstays => ?_⟩
    · rw [List.flatMap_cons, hrows, hname, List.append_nil, List.map_append]
    · obtain ⟨hst, hsteps⟩ := List.forall_mem_cons.1 hstays
      refine hcaught' (hgone.caughtUp ?_) hsteps
      rw [hfirst.connected, hst]
      rfl

/-! ## From the opening on -/

/-- A feed that has been opened is ready. -/
theorem ready_of_start {feed : Feed} {name : Text} (htends : feed.Tends s')
    (hlooking : feed.current? = none) (hmeek : s.Meek)
    (hlisteners : s'.listeners = s.listeners ++ [.inbox name .running none false]) :
    feed.Ready s' := by
  have hinbox := htends.inbox
  rw [hlooking] at hinbox
  refine ⟨htends, hinbox.alert, within_iff.2 fun x hx => ?_⟩
  rw [hlisteners] at hx
  rcases List.mem_append.1 hx with hx | hx
  · exact within_iff.1 hmeek x hx
  · rw [List.mem_singleton.1 hx]
    rfl

/-- What comes of asking for a feed once it has been opened. -/
theorem goes_opening (h : feed.Ready s) (hc : feed.connected = true) (settings : Settings)
    (steps : List FeedStep) :
    Goes (feed.advance true >>= fun x => feedRows settings (some x.2) steps
        >>= fun rows => pure (Opening.feed x.1, rows)) feed s
      fun a sent feed' s' => (∃ events, a.1 = .feed events ∧
        events ++ a.2.flatMap (·.events) = sent.map (frame feed.name)) ∧
        ((∀ st ∈ steps, st.disconnects = false) → feed'.CaughtUp s') := by
  refine (goes_advance h true).bind h ?_
  rintro _ sent feed₁ s₁ ⟨rfl, hgone⟩ h₁ hname
  refine (goes_feedRows h₁ settings steps).bind h₁ ?_
  rintro rows more feed₂ s₂ ⟨hrows, hcaught'⟩ h₂ -
  refine .of_pure h₂ ⟨⟨_, rfl, ?_⟩, hcaught' (hgone.caughtUp hc)⟩
  rw [hrows, hname, List.append_nil, List.map_append]

/-- **What a panel sends to the reader of a feed**, while it answers requests and flags change: the
events of the opening and of all steps are those of values that the flag was given since it was
opened, in their order and none twice; and if the reader stays, the last is the present one. -/
theorem runFeed_shows {roster : Roster} {ms₀ : List Move}
    (hms₀ : Switchboard.Fair ms₀ (ofRoster roster))
    (hworker : (play ms₀ (ofRoster roster)).onWorker = false)
    (hmeek : (play ms₀ (ofRoster roster)).Meek) {name : Text} {r : Request}
    (hroute : Route.find r.method (Target.path r.target) = .call (.stream name))
    {steps : List FeedStep} {opening : Opening} {rows : List FeedRow}
    (hrun : (runFeed settings r steps).run (play ms₀ (ofRoster roster))
      = (.ok (opening, rows), s)) :
    ∃ feed₁ s₁ events, ∃ sent : List Bool,
      (start name).run (play ms₀ (ofRoster roster)) = (.ok feed₁, s₁) ∧
      opening = .feed events ∧ events ++ rows.flatMap (·.events) = sent.map (frame name) ∧
      sent.Sublist ((play ms₀ (ofRoster roster)).present name none
        :: given name (s.history.drop s₁.history.length)) ∧
      ((∀ st ∈ steps, st.disconnects = false) →
        ∃ present, s.value? name = some present ∧ sent.getLast? = some present) := by
  have hsound : (play ms₀ (ofRoster roster)).Sound := (Sound.ofRoster roster).play hms₀
  have hplaced : (play ms₀ (ofRoster roster)).Placed :=
    Placed.play nofun (Orderly.ofRoster roster) hms₀
  obtain ⟨s₁, hstart, hfresh, htends, hlisteners⟩ := run_start hsound hplaced hworker name
  have hready := ready_of_start htends rfl hmeek hlisteners
  obtain ⟨result, fms, sent, feed', s', hrest, hfollows, -, hsuits⟩ :=
    goes_opening hready rfl settings steps
  rw [runFeed, hroute] at hrun
  dsimp only at hrun
  rw [run_bind, hstart] at hrun
  obtain ⟨rfl, rfl⟩ := Prod.mk.inj (hrest.symm.trans hrun)
  obtain ⟨⟨events, hopening, hevents⟩, hcaught⟩ := hsuits _ rfl
  obtain ⟨_, _, ms, hfollow, hcourse⟩ := course_follow htends hfollows.fair
  rw [hfollows.run] at hfollow
  cases hfollow
  exact ⟨_, s₁, events, sent, hstart, hopening, hevents, hcourse.sent_sublist hfresh rfl,
    fun hstays => hcourse.last_sent hfresh rfl (hcaught hstays)⟩

-- the flag is turned on while its feed is open, and then the reader leaves
example : (outcome (runFeed hostOfTen ⟨"GET", "/api/features/f/stream", []⟩
      [⟨[.update (.ok ⟨"f", true, .unrestricted⟩)], none, false, true⟩, ⟨[], none, true, false⟩])
    (ofRoster [])).toOption.map (fun x => x.2.map fun row => (row.events, row.ended, row.listeners))
    = some [([frame "f" true], false, 1), ([], true, 0)] := by
  decide +kernel

end Feed

end FeatureFlags

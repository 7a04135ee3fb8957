import FeatureFlags.Proofs.Switchboard.Sealing

/-!
# Proofs/Switchboard/Readers — what is read from a reader

A reader is handed the values of its topic at once, and has room for one of them.  Callbacks may
close readers here, also while a value is handed out, and do nothing else.  Then each reading finds
the value handed out last if it has not been read yet, and none otherwise; so what is read next, if
anything is, is the value that the topic has (`Serves`).  A reader that is closed is sealed, at
whatever moment that was (`observe_serves`).
-/

namespace FeatureFlags

namespace Switchboard

variable {react : React} {s s' s₁ m : Switchboard} {l : ListenerId} {topic : Text} {value : Bool}
  {ms : List Move} {rs : List Reading}

/-- **A reader serves the latest value** that was handed to it, the first of them being that of its
topic when it began: it views the latest value, and is handed each value at once; as long as it is
open, what is unread is the value its topic has, unless that was read. -/
structure Serves (s₁ : Switchboard) (l : ListenerId) (topic : Text) (value : Bool)
    (rs : List Reading) (s : Switchboard) : Prop where
  views : Views s₁ l topic value rs s
  first : [value] <+: received l s.history
  prompt : ∀ r ∈ rs, r.listener = l → r.found.arrived l = received l r.found.history
  next : s.isShut l = false → s.unread? l =
    if passed l rs = (received l s.history).length then none else s.value? topic

/-- What has arrived where nothing is on its way. -/
theorem arrived_of_coming (h : s.coming l = []) : s.arrived l = received l s.history := by
  rw [arrived, h, List.length_nil, Nat.sub_zero, List.take_length]

/-- **A new reader serves the latest value**, whatever moves are made. -/
theorem Fresh.serves (h : s₁.Fresh l topic value) (hl : s₁.IsReader l) (hms : Mild ms s₁) :
    Serves s₁ l topic value (log ms s₁) (play ms s₁) := by
  have hviews := h.views hms
  obtain ⟨slot, hslot, hlatest, hvalue⟩ := h.slot
  obtain ⟨slot', hslot', hpasses⟩ := passes_play hms hslot hlatest
  refine ⟨hviews, ?_, fun r hr _ => ?_, fun hopen => ?_⟩
  · obtain ⟨more, hmore⟩ := (kept_remembering.play hms h.sound.orderly).2.2
    have hstart : received l s₁.history = [value] := hslot.received.trans hvalue
    rw [← hmore, received_append, hstart]
    exact List.prefix_append _ _
  · obtain ⟨ms', hfound, hms'⟩ := mem_log hr hms
    rw [hfound]
    exact arrived_of_coming (h.direct hl hms')
  · have hbehind : passed l (log ms s₁) ≤ (received l (play ms s₁).history).length := by
      rw [hslot'.received, List.length_append]
      exact hpasses.latest.behind.trans (Nat.le_add_right _ _)
    rw [hviews.unread hopen (h.direct hl hms), List.getLast?_drop, hviews.current hopen]
    by_cases heq : passed l (log ms s₁) = (received l (play ms s₁).history).length
    · rw [if_pos heq, if_pos heq.ge]
    · rw [if_neg heq, if_neg fun hle => heq (hbehind.antisymm hle)]

/-- A new reader is tidy. -/
theorem Fresh.tidy (h : s₁.Fresh l topic value) (hl : s₁.IsReader l) : s₁.Tidy l := by
  obtain ⟨slot, hslot, hlatest, -⟩ := h.slot
  obtain ⟨t, unread, closed, hx⟩ := hl
  refine ⟨t, unread, closed, hx, fun hc => ?_⟩
  have hlistener := Option.some.inj (hslot.listener.symm.trans hx)
  have hempty := hlatest.emptied
  rw [hlistener] at hempty
  exact hempty rfl hc

/-- **A reader serves the latest value**, whatever moves are made before it comes, and then, as long
as callbacks do nothing but close readers or fail.  From the moment it is closed it is at its end,
and nothing is read from it any more. -/
theorem observe_serves {roster : Roster} {ms₀ : List Move} (hms₀ : Mild ms₀ (ofRoster roster))
    (hreact : Lawful mild react) (id topic : Text) (initial : Option Bool) :
    let s₀ := play ms₀ (ofRoster roster)
    let s₁ := after (execute react (.observe id topic initial)) s₀
    let l := s₀.listeners.length
    ∀ ms, Mild ms s₁ →
      Serves s₁ l topic (s₀.present topic initial) (log ms s₁) (play ms s₁) ∧
      ∀ m s', Closing l (play ms s₁) m s' → m.Exhausted l ∧
        ∀ ms', Mild ms' s' → (play ms' s').Exhausted l ∧ valuesOf l (log ms' s') = [] := by
  intro s₀ s₁ l ms hms
  have hsound : s₀.Sound := (Sound.ofRoster roster).mildly hms₀
  have hfresh : s₁.Fresh l topic (s₀.present topic initial) :=
    fresh_after (e := ⟨topic, initial, .reader topic none false, .observation, id⟩) hsound rfl rfl
      hreact (.inl rfl) (after_observe react id topic initial s₀)
  have hreader : s₁.IsReader l :=
    isReader_after_observe hsound.orderly hreact.plain_of_mild id topic initial
  refine ⟨hfresh.serves hreader hms, fun m s' hclosing => ?_⟩
  have htidy : (play ms s₁).Tidy l := (hms.seals (hfresh.tidy hreader)).1
  obtain ⟨hm, hs'⟩ := hclosing.sealed (hfresh.sound.mildly hms).orderly htidy
  exact ⟨hm.exhausted, fun ms' hms' => ⟨(hs'.seals hms'.seals).exhausted, hs'.valuesOf_log hms'⟩⟩

/-- A callback, and a reader that came after it and was polled once. -/
def polled : Switchboard :=
  play [.operate (fun _ _ => pure ()) (.publish "f" true),
      .operate (fun _ _ => pure ()) (.poll "o"), .operate (fun _ _ => pure ()) (.publish "f" false)]
    (after (execute (fun _ _ => pure ()) (.observe "o" "f" none))
      (after (execute (fun _ _ => pure ()) (.subscribe "c" "f" none [])) (ofRoster [])))

/-- The moment at which the callback closes the reader, before it is the reader's turn. -/
def shutting : Switchboard := (polled.written ⟨"f", true, true⟩).deliver 0 true

theorem amid_shutting : Amid (.close "o") [⟨true, [1]⟩] shutting polled
    (after (execute (whenOn (.close "o")) (.publish "f" true)) polled) := by
  have hcall : Calling (whenOn (.close "o")) (.publish "f" true) polled 0 ⟨true, [1]⟩ shutting :=
    @Calling.told _ _ _ ⟨"f", true, true⟩ [] [1] 0 (.callback "c" "f" []) rfl (by decide +kernel)
      (by rfl) rfl
  have hlaw : Lawful plain (whenOn (.close "o")) := lawful_whenOn fun _ => rfl
  have hlast : Conduct plain (after (execute (fun _ _ => pure ()) (.close "o")) shutting)
      (after (whenOn (.close "o") 0 true) shutting) := by
    rw [after_whenOn]
    exact .done _
  exact .within hlaw rfl hcall (.done _) (.itself lawful_idle rfl) hlast

/-- A reader has a value unread, and then is closed by a callback while another value is handed out:
nothing is read from it any more. -/
theorem observe_serves_shut :
    let idle : React := fun _ _ => pure ()
    let s' := after (execute (whenOn (.close "o")) (.publish "f" true)) polled
    polled.unread? 1 = some false ∧
      (after (execute idle (.close "o")) shutting).Exhausted 1 ∧ s'.Exhausted 1 ∧
      valuesOf 1 (log [.operate idle (.poll "o")] s') = [] := by
  intro idle s'
  have hms₀ : Mild [.operate idle (.subscribe "c" "f" none [])] (ofRoster []) :=
    ⟨⟨lawful_idle, rfl, nofun⟩, trivial⟩
  obtain ⟨hserves, hclosed⟩ := @observe_serves idle [] _ hms₀ lawful_idle "o" "f" none
    [.operate idle (.publish "f" true), .operate idle (.poll "o"),
      .operate idle (.publish "f" false)]
    ⟨⟨lawful_idle, rfl, nofun⟩, (Move.fair_poll (by decide +kernel)).mild,
      ⟨lawful_idle, rfl, nofun⟩, trivial⟩
  have hnext : polled.unread? 1 = some false := by
    refine (hserves.next (by decide +kernel)).trans ?_
    decide +kernel
  obtain ⟨hat, hend⟩ := hclosed _ s' (.named idle amid_shutting (by decide +kernel))
  have hpoll : Mild [.operate idle (.poll "o")] s' :=
    ⟨(Move.fair_poll (by decide +kernel)).mild, trivial⟩
  exact ⟨hnext, hat, (hend [] trivial).1, (hend _ hpoll).2⟩

end Switchboard

end FeatureFlags

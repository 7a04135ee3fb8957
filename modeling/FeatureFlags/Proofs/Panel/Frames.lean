import FeatureFlags.Proofs.Json.ReadBack
import FeatureFlags.Proofs.Panel.Feeds
import FeatureFlags.Proofs.Panel.Rows
import FeatureFlags.Proofs.Text.Encodable
import FeatureFlags.Proofs.Text.Parts

/-!
# Proofs/Panel/Frames — events are told apart, whatever the name of the flag

    data: payload ⏎ ⏎ data: payload ⏎ ⏎ …

Whatever a name holds, the payload is written with printable characters only, so the first line end
of a stream ends its first event, and the payload is a document that says the name and the state
again.  So a stream of events is one way only a stream of events (`frames_told_apart`).
-/

namespace FeatureFlags

open Switchboard

namespace Feed

/-! ## Payloads -/

/-- **A payload is a document that says what it was made of.** -/
theorem parse_payload (name : List Char) (enabled : Bool) :
    Json.parse (.ofChars (payload (.ofChars name) enabled).render)
      = .ok (payload (.ofChars name) enabled) := by
  have hpairs (cs : List Char) : (Text.ofChars cs).pairSurrogates = .ofChars cs :=
    Text.pairSurrogates_of_chars (Text.encodable_ofChars cs)
  have hname : Json.FieldReadsAs 0 ("name", .str (.ofChars name)) ("name", .str (.ofChars name)) :=
    ⟨(hpairs _).symm, by simpa only [hpairs] using Json.readsAs_str (.ofChars name)⟩
  have henabled : Json.FieldReadsAs 0 ("enabled", .bool enabled) ("enabled", .bool enabled) :=
    ⟨(hpairs _).symm, Json.readsAs_bool enabled⟩
  exact Json.parse_render (Json.readsAs_obj (.cons hname (.cons henabled .nil))) (by decide)

/-! ## Lines -/

/-- **The line of an event.** -/
def line (name : Text) (enabled : Bool) : List Char :=
  "data: ".toList ++ (payload name enabled).render

/-- Lines one after the other, with an empty one behind each. -/
def spaced (lines : List (List Char)) : List Char := lines.flatMap (· ++ ['\n', '\n'])

/-- **The lines of events** among all lines, if each of them is followed by an empty one. -/
def eventLines? : List Text → Option (List Text)
  | [[]] => some []
  | line :: [] :: lines => (eventLines? lines).map (line :: ·)
  | _ => none

/-- What the line of an event says: a name and a state. -/
def said? (line : Text) : Option (List Char × Bool) :=
  match (line.after? "data: ").map Json.parse with
  | some (.ok document) =>
    match document.field? "name", document.field? "enabled" with
    | some (.str name), some (.bool enabled) => name.chars?.map (·, enabled)
    | _, _ => none
  | _ => none

/-- **Reading a stream of events.** -/
def read? (stream : Text) : Option (List (List Char × Bool)) :=
  (eventLines? (stream.splitOn (.scalar '\n'))).bind (·.mapM said?)

/-- **A stream of events**, each a name and a state. -/
def stream (sent : List (List Char × Bool)) : List Char :=
  sent.flatMap fun (name, enabled) => frame (.ofChars name) enabled

theorem notMem_line (name : Text) (enabled : Bool) : '\n' ∉ line name enabled := by
  intro h
  rcases List.mem_append.1 h with h | h
  · exact absurd h (by decide)
  · exact absurd (Json.printable_render _ _ h) (by decide)

theorem notMem_lines (sent : List (List Char × Bool)) :
    ∀ l ∈ sent.map fun (name, enabled) => line (.ofChars name) enabled, '\n' ∉ l := by
  intro l hl
  obtain ⟨e, -, rfl⟩ := List.mem_map.1 hl
  exact notMem_line _ _

theorem stream_eq_spaced (sent : List (List Char × Bool)) :
    stream sent = spaced (sent.map fun (name, enabled) => line (.ofChars name) enabled) := by
  rw [spaced, List.flatMap_map]
  rfl

/-- **Lines are found again** where an empty one was put behind each. -/
theorem eventLines?_spaced {lines : List (List Char)} (h : ∀ l ∈ lines, '\n' ∉ l) :
    eventLines? ((Text.ofChars (spaced lines)).splitOn (.scalar '\n'))
      = some (lines.map Text.ofChars) := by
  induction lines with
  | nil => rfl
  | cons l lines ih =>
    obtain ⟨hl, hlines⟩ := List.forall_mem_cons.1 h
    have hl : .scalar '\n' ∉ Text.ofChars l := by
      intro hmem
      obtain ⟨c, hc, heq⟩ := List.mem_map.1 hmem
      exact hl (CodePoint.scalar.inj heq ▸ hc)
    have hspaced : Text.ofChars (spaced (l :: lines))
        = Text.ofChars l ++ .scalar '\n' :: .scalar '\n' :: Text.ofChars (spaced lines) := by
      simp [spaced, Text.ofChars]
    have hempty (t : Text) : Text.splitOn (.scalar '\n') (.scalar '\n' :: t)
        = [] :: t.splitOn (.scalar '\n') := if_pos rfl
    rw [hspaced, Text.splitOn_append_cons hl, hempty, eventLines?, ih hlines]
    rfl

/-- So lines are put one after the other in one way only. -/
theorem spaced_inj {lines lines' : List (List Char)} (h : ∀ l ∈ lines, '\n' ∉ l)
    (h' : ∀ l ∈ lines', '\n' ∉ l) (heq : spaced lines = spaced lines') : lines = lines' := by
  have hfound := eventLines?_spaced h
  rw [heq, eventLines?_spaced h'] at hfound
  refine List.map_injective_iff.2 (fun cs ds hcs => ?_) (Option.some.inj hfound).symm
  rw [← Option.some.injEq, ← Text.chars?_ofChars cs, hcs, Text.chars?_ofChars]

theorem said?_line (name : List Char) (enabled : Bool) :
    said? (.ofChars (line (.ofChars name) enabled)) = some (name, enabled) := by
  have hpayload : (Text.ofChars (line (.ofChars name) enabled)).after? "data: "
      = some (.ofChars (payload (.ofChars name) enabled).render) :=
    Text.after?_eq_some_iff.2 (Text.ofChars_append "data: ".toList _)
  rw [said?, hpayload, Option.map_some, parse_payload]
  change (Text.chars? (.ofChars name)).map (·, enabled) = _
  rw [Text.chars?_ofChars]
  rfl

/-- **A stream of events is read as what was sent.** -/
theorem read?_stream (sent : List (List Char × Bool)) :
    read? (.ofChars (stream sent)) = some sent := by
  rw [read?, stream_eq_spaced, eventLines?_spaced (notMem_lines sent), Option.bind_some]
  induction sent with
  | nil => rfl
  | cons e sent ih =>
    rw [List.map_cons, List.map_cons, List.mapM_cons, said?_line, ih]
    rfl

/-! ## What is sent -/

/-- **Events of a name**: frames of it, each with some state. -/
def Events (name : Text) (events : List (List Char)) : Prop :=
  ∃ values : List Bool, events = values.map (frame name)

theorem Events.append {name : Text} {events events' : List (List Char)} (h : Events name events)
    (h' : Events name events') : Events name (events ++ events') := by
  obtain ⟨values, rfl⟩ := h
  obtain ⟨values', rfl⟩ := h'
  exact ⟨values ++ values', List.map_append.symm⟩

end Feed

/-- **Whatever an action answers** has a property. -/
def Answers {α : Type} (P : α → Prop) (x : Action α) : Prop :=
  ∀ s a s', x.run s = (.ok a, s') → P a

namespace Answers

variable {α β : Type} {P : α → Prop} {Q : β → Prop}

theorem of_pure {a : α} (h : P a) : Answers P (pure a) := by
  intro s b s' hrun
  obtain ⟨rfl, -⟩ := run_pure_eq_ok hrun
  exact h

theorem of_bind {x : Action α} {f : α → Action β} (hx : Answers P x)
    (hf : ∀ a, P a → Answers Q (f a)) : Answers Q (x >>= f) := by
  intro s b s' hrun
  obtain ⟨a, t, ha, hb⟩ := run_bind_eq_ok hrun
  exact hf a (hx s a t ha) t b s' hb

/-- What an action answers need not matter. -/
theorem of_forall {x : Action α} {f : α → Action β} (hf : ∀ a, Answers Q (f a)) :
    Answers Q (x >>= f) := of_bind (P := fun _ => True) (fun _ _ _ _ => trivial) fun a _ => hf a

end Answers

namespace Feed

variable {feed : Feed}

theorem answers_stop : Answers (·.name = feed.name) feed.stop :=
  .of_forall fun _ => .of_pure rfl

theorem answers_look : Answers (·.name = feed.name) feed.look := by
  unfold look
  split
  · split
    · exact .of_forall fun _ => .of_forall fun _ => .of_pure rfl
    · exact answers_stop
  · exact .of_pure rfl

theorem answers_heed : Answers (·.2.name = feed.name) feed.heed := by
  unfold heed
  split
  · refine .of_forall fun s => ?_
    split
    · exact .of_pure rfl
    · exact .of_bind answers_stop fun _ h => .of_pure h
    · exact .of_pure rfl
  · exact .of_pure rfl

theorem answers_timeOut : Answers (·.name = feed.name) feed.timeOut := by
  unfold timeOut
  split
  · refine .of_forall fun s => ?_
    split
    · exact .of_pure rfl
    · exact .of_forall fun _ => .of_pure rfl
  · exact .of_pure rfl

theorem answers_pump : Answers (·.2.name = feed.name) feed.pump := by
  refine .of_forall fun _ => .of_bind answers_heed fun (_, feed₁) h₁ => ?_
  exact .of_bind answers_look fun feed₂ h₂ => .of_pure (h₂.trans h₁)

/-- **A feed that goes on** keeps its name, and sends events of it. -/
theorem answers_advance (patient : Bool) :
    Answers (fun (events, feed') => Events feed.name events ∧ feed'.name = feed.name)
      (feed.advance patient) := by
  refine .of_bind answers_pump fun (first, feed₁) h₁ => ?_
  refine .of_bind answers_pump fun (second, feed₂) h₂ => ?_
  have hname : feed₂.name = feed.name := h₂.trans h₁
  have hlast (feed₃ : Feed) (h₃ : feed₃.name = feed.name) :
      Answers (fun (events, feed') => Events feed.name events ∧ feed'.name = feed.name) (do
        modify settle
        return ((first ++ second).map (frame feed₃.name), feed₃)) :=
    .of_forall fun _ => .of_pure ⟨⟨first ++ second, by rw [h₃]⟩, h₃⟩
  cases patient with
  | true => exact hlast feed₂ hname
  | false =>
    refine .of_bind answers_timeOut fun feed₃ h₃ => .of_bind answers_look fun feed₄ h₄ => ?_
    exact hlast feed₄ (h₄.trans (h₃.trans hname))

end Feed

namespace Panel

open Feed

variable {settings : Settings} {feed : Option Feed} {name : Text}

/-- **Events of a name**, and a feed of that name that goes on, if there is one. -/
def Sends (name : Text) (x : List (List Char) × Option Feed) : Prop :=
  Events name x.1 ∧ ∀ f ∈ x.2, f.name = name

theorem answers_goOn (patient : Bool) (h : ∀ f ∈ feed, f.name = name) :
    Answers (Sends name) (goOn patient feed) := by
  cases feed with
  | none => exact .of_pure ⟨⟨[], rfl⟩, nofun⟩
  | some feed =>
    obtain rfl := h feed rfl
    refine .of_bind (answers_advance patient) fun (events, feed') ⟨hevents, hname⟩ => ?_
    exact .of_pure ⟨hevents, by rintro _ ⟨⟩; exact hname⟩

theorem answers_feedRow (events : List (List Char)) :
    Answers (·.events = events) (feedRow events feed) := by
  cases feed with
  | none => exact .of_pure rfl
  | some feed => exact .of_forall fun _ => .of_pure rfl

/-- A feed that is let go on twice in a step sends events of its name. -/
theorem answers_feedStep (st : FeedStep) (h : ∀ f ∈ feed, f.name = name) :
    Answers (fun x => Sends name (x.1.events, x.2)) (feedStep settings feed st) := by
  have hidle : Sends name ([], feed) := ⟨⟨[], rfl⟩, h⟩
  have hlast (before : List (List Char)) (feed₁ : Option Feed) (h₁ : Sends name (before, feed₁)) :
      Answers (fun x => Sends name (x.1.events, x.2)) (do
        let x ← goOn st.patient (if st.disconnects then feed₁.map Feed.disconnect else feed₁)
        return (← feedRow (before ++ x.1) x.2, x.2)) := by
    have h₂ : ∀ f ∈ if st.disconnects then feed₁.map Feed.disconnect else feed₁,
        f.name = name := by
      intro f hf
      split at hf
      · obtain ⟨f₁, hf₁, rfl⟩ := Option.map_eq_some_iff.1 hf
        exact h₁.2 f₁ hf₁
      · exact h₁.2 f hf
    refine .of_bind (answers_goOn st.patient h₂) fun (after, feed₃) ⟨hafter, h₃⟩ => ?_
    refine .of_bind (answers_feedRow (before ++ after)) fun row hrow => ?_
    exact .of_pure ⟨by rw [hrow]; exact h₁.1.append hafter, h₃⟩
  refine .of_forall fun _ => ?_
  cases st.request with
  | none => exact hlast [] feed hidle
  | some r =>
    dsimp only
    split
    · exact .of_bind (answers_goOn true h) fun (events, feed₁) h₁ =>
        .of_forall fun _ => hlast events feed₁ h₁
    · exact .of_bind (.of_pure hidle) fun (events, feed₁) h₁ =>
        .of_forall fun _ => hlast events feed₁ h₁

theorem answers_feedRows (steps : List FeedStep) (h : ∀ f ∈ feed, f.name = name) :
    Answers (fun rows => Events name (rows.flatMap (·.events)))
      (feedRows settings feed steps) := by
  induction steps generalizing feed with
  | nil =>
    rw [feedRows]
    exact .of_pure ⟨[], rfl⟩
  | cons st steps ih =>
    rw [feedRows]
    refine .of_bind (answers_feedStep st h) fun (row, feed') ⟨hrow, h'⟩ => ?_
    exact .of_bind (ih h') fun rows hrows => .of_pure (hrow.append hrows)

/-- **Whoever asks for a feed** gets events of its name only, from the opening on. -/
theorem answers_runFeed {r : Request}
    (hroute : Route.find r.method (Target.path r.target) = .call (.stream name))
    (steps : List FeedStep) :
    Answers (fun x => ∃ events, x.1 = .feed events ∧ Events name (events ++ x.2.flatMap (·.events)))
      (runFeed settings r steps) := by
  unfold runFeed
  rw [hroute]
  refine .of_bind (P := (·.name = name)) (.of_forall fun s => .of_forall fun _ => .of_pure rfl)
    fun feed hfeed => ?_
  subst hfeed
  refine .of_bind (answers_advance true) fun (events, feed') ⟨hevents, hname⟩ => ?_
  refine .of_bind (answers_feedRows steps (by rintro _ ⟨⟩; exact hname)) fun rows hrows => ?_
  exact .of_pure ⟨events, rfl, hevents.append hrows⟩

end Panel

/-! ## Names in requests -/

/-- What is cut off a text is a part of it. -/
theorem Text.mem_of_cut? {separator c : CodePoint} {t left right : Text}
    (h : t.cut? separator = some (left, right)) (hc : c ∈ left) : c ∈ t := by
  induction t generalizing left right with
  | nil => cases h
  | cons d t ih =>
    rw [cut?] at h
    split at h
    · cases h
      cases hc
    · obtain ⟨⟨left', right'⟩, hcut, heq⟩ := Option.map_eq_some_iff.1 h
      cases heq
      rcases List.mem_cons.1 hc with rfl | hc
      · exact List.mem_cons_self
      · exact List.mem_cons_of_mem d (ih hcut hc)

namespace Resource

variable {method path name : Text} {resource : Resource}

theorem eq_stream_of_call? (h : resource.call? method = some (.stream name)) :
    resource = .stream name := by
  cases resource <;> grind [call?]

theorem exists_cut?_of_stream (h : ofPath? path = some (.stream name)) :
    ∃ rest tail, path.after? "/api/features/" = some rest ∧
      rest.cut? (.scalar '/') = some (name, tail) := by
  grind [ofPath?, below, Option.bind_eq_some_iff]

end Resource

namespace Route

variable {method path target name : Text} {c : Call}

/-- **A request leads to a call** of the resource at its path. -/
theorem find_eq_call_iff : find method path = .call c ↔
    ∃ resource, Resource.ofPath? path = some resource ∧ resource.call? method = some c := by
  unfold find
  cases Resource.ofPath? path with
  | none =>
    dsimp only
    split <;> simp
  | some resource => cases hcall : resource.call? method <;> simp [hcall]

/-- **The name of a feed that is asked for** is a text of characters. -/
theorem exists_chars_of_stream (h : find method (Target.path target) = .call (.stream name)) :
    ∃ cs, name = .ofChars cs := by
  obtain ⟨resource, hresource, hcall⟩ := find_eq_call_iff.1 h
  rw [Resource.eq_stream_of_call? hcall] at hresource
  obtain ⟨rest, tail, hrest, hname⟩ := Resource.exists_cut?_of_stream hresource
  have hpath : (Target.path target).Encodable := Text.encodable_ofChars _
  rw [Text.after?_eq_some_iff.1 hrest] at hpath
  exact Text.encodable_iff.1 fun c hc =>
    hpath c (List.mem_append_right _ (Text.mem_of_cut? hname hc))

end Route

namespace Feed

open Panel

/-- Frames one after the other are a stream. -/
theorem flatten_frames (name : List Char) (values : List Bool) :
    (values.map (frame (.ofChars name))).flatten = stream (values.map (name, ·)) := by
  rw [stream, List.flatMap_map, List.flatMap_def]

/-- **Events are told apart, whatever the names.**  An event is a line and an empty one behind it.
The line is a mark and a document, in printable characters only, which says the name and the state.
So a stream of events, of whatever flags, is read as what was sent; no other events make the same
stream, and no other lines do.  Whoever asks for a feed is sent such events, all of the name that
was asked for, and can read them. -/
theorem frames_told_apart :
    (∀ (name : List Char) (enabled : Bool), ∃ document : List Char,
      frame (.ofChars name) enabled = "data: ".toList ++ document ++ ['\n', '\n'] ∧
      (∀ c ∈ document, Printable c) ∧
      Json.parse (.ofChars document)
        = .ok (.obj [("name", .str (.ofChars name)), ("enabled", .bool enabled)])) ∧
    (∀ sent : List (List Char × Bool), read? (.ofChars (stream sent)) = some sent ∧
      (∀ sent', stream sent' = stream sent → sent' = sent) ∧
      ∀ lines, (∀ l ∈ lines, '\n' ∉ l) → spaced lines = stream sent →
        lines = sent.map fun (name, enabled) => line (.ofChars name) enabled) ∧
    ∀ settings (r : Request) steps (s s' : Switchboard) name opening rows,
      Route.find r.method (Target.path r.target) = .call (.stream name) →
      (runFeed settings r steps).run s = (.ok (opening, rows), s') →
      ∃ events cs, ∃ values : List Bool, opening = .feed events ∧ name = .ofChars cs ∧
        let sent := events ++ rows.flatMap (·.events)
        sent = values.map (frame (.ofChars cs)) ∧
          read? (.ofChars sent.flatten) = some (values.map (cs, ·)) := by
  refine ⟨fun name enabled => ?_, fun sent => ⟨read?_stream sent, fun sent' h => ?_,
    fun lines hlines h => ?_⟩, fun settings r steps s s' name opening rows hroute hrun => ?_⟩
  · exact ⟨_, rfl, Json.printable_render _, parse_payload name enabled⟩
  · have hread := read?_stream sent'
    rw [h, read?_stream] at hread
    exact (Option.some.inj hread).symm
  · rw [stream_eq_spaced] at h
    exact spaced_inj hlines (notMem_lines sent) h
  · obtain ⟨cs, rfl⟩ := Route.exists_chars_of_stream hroute
    obtain ⟨events, rfl, values, hvalues⟩ := answers_runFeed hroute steps s _ s' hrun
    refine ⟨events, cs, values, rfl, rfl, hvalues, ?_⟩
    dsimp only at hvalues
    rw [hvalues, flatten_frames]
    exact read?_stream _

/-- A name that would end a line and an event, if it were not escaped. -/
theorem frames_told_apart_lineEnds :
    let name : List Char := "\"\r\n\n😀".toList
    let r : Request := ⟨"GET", .ofChars "/api/features/".toList ++ Percent.encode (.ofChars name)
      ++ "/stream", []⟩
    let s := ofRoster [⟨.ofChars name, true, ⟨[], []⟩⟩]
    ∃ events rows s', (runFeed hostOfTen r []).run s = (.ok (.feed events, rows), s') ∧
      events ++ rows.flatMap (·.events) = [frame (.ofChars name) true] ∧
      read? (.ofChars (frame (.ofChars name) true)) = some [(name, true)] := by
  intro name r s
  have hresource : Resource.ofPath? (Target.path r.target) = some (.stream (.ofChars name)) := by
    decide +kernel
  have hroute : Route.find r.method (Target.path r.target) = .call (.stream (.ofChars name)) :=
    Route.find_eq_call_iff.2 ⟨_, hresource, rfl⟩
  have hsent : (outcome (runFeed hostOfTen r []) s).toOption.map (fun x =>
      match x.1 with
      | .feed events => events ++ x.2.flatMap (·.events)
      | .response _ => []) = some [frame (.ofChars name) true] := by decide +kernel
  rcases hrun : (runFeed hostOfTen r []).run s with ⟨_ | ⟨opening, rows⟩, s'⟩
  · rw [outcome, hrun] at hsent
    cases hsent
  · obtain ⟨-, hstreams, hfeed⟩ := frames_told_apart
    obtain ⟨events, cs, values, rfl, -, -, -⟩ := hfeed _ _ _ _ _ _ _ _ hroute hrun
    rw [outcome, hrun] at hsent
    have hread := (hstreams [(name, true)]).1
    rw [stream, List.flatMap_singleton] at hread
    exact ⟨events, rows, s', rfl, Option.some.inj hsent, hread⟩

end Feed

end FeatureFlags

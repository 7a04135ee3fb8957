import FeatureFlags.Proofs.Switchboard.History

/-!
# Proofs/Switchboard/Convergence — whether those who listen end up with the present value

A topic that is written while its value is being handed out is handed out twice, the later value
inside the earlier one.  Who is served after the callback that did this receives the later value
first, and then the earlier one: it was overtaken (`Overtaken`).  Nobody misses anything, though:
after the last writing of its topic, each listener attached has been served (`Reachable.served`).
So once an operation has returned, a listener attached has the present value for its last one if and
only if it was not overtaken (`Reachable.last_iff`).

    callback a         ◂── on ──┐        ┌── off ──▸  callback a
    writes off ─────────────────┘        └── off ──▸  reader o
                                on, which is no longer so  ──▸  reader o
-/

namespace FeatureFlags

/-- A topic was given a value after which a listener received nothing. -/
def Missed (topic : Text) (l : ListenerId) (history : List Event) : Prop :=
  ∃ before value ls after, history = before ++ .written topic value ls :: after ∧
    received l after = []

/-- **A listener was overtaken**: its last value was handed to it when the topic had another one. -/
def Overtaken (topic : Text) (l : ListenerId) (history : List Event) : Prop :=
  ∃ before value after, history = before ++ .handed l value :: after ∧ received l after = [] ∧
    (given topic before).getLast? ≠ some value

/-- What is missed after one more event was missed before, unless the event is a writing. -/
theorem Missed.of_concat {topic : Text} {l : ListenerId} {history : List Event} {e : Event}
    (h : Missed topic l (history ++ [e])) :
    (∃ value ls, e = .written topic value ls) ∨ Missed topic l history ∧ received l [e] = [] := by
  obtain ⟨before, value, ls, after, he, ha⟩ := h
  rcases List.eq_nil_or_concat after with rfl | ⟨rest, e', rfl⟩
  · have hw := (List.append_inj' he rfl).2
    exact .inl ⟨value, ls, List.singleton_inj.1 hw⟩
  · rw [List.concat_eq_append, ← List.cons_append, ← List.append_assoc] at he
    obtain ⟨hh, hw⟩ := List.append_inj' he rfl
    rw [List.concat_eq_append, received_append, List.append_eq_nil_iff, ← hw] at ha
    exact .inr ⟨⟨before, value, ls, rest, hh, ha.1⟩, ha.2⟩

/-- Nothing is missed by who received the last event. -/
theorem not_missed_handed (topic : Text) (l : ListenerId) (value : Bool) (history : List Event) :
    ¬ Missed topic l (history ++ [.handed l value]) := by
  intro h
  rcases h.of_concat with ⟨_, _, he⟩ | ⟨-, hr⟩
  · cases he
  · rw [received_handed, if_pos rfl] at hr
    cases hr

namespace Switchboard

variable {react : React} {s s' : Switchboard} {t topic : Text} {l : ListenerId}

/-- A listener attached has yet to be served. -/
def Unserved (s : Switchboard) (topic : Text) (l : ListenerId) : Prop :=
  l ∈ s.attached topic ∧ Missed topic l s.history

/-- **What leaves nobody unserved** who was served. -/
def Serving (s s' : Switchboard) : Prop := ∀ topic l, Unserved s' topic l → Unserved s topic l

theorem serving_detach (topic : Text) (l : ListenerId) (s : Switchboard) :
    Serving s (s.detach topic l) := by
  rintro t i ⟨hi, hm⟩
  exact ⟨mem_attached_of_detach hi, hm⟩

theorem admits_serving : Admits Serving where
  trans h h' t l hu := h t l (h' t l hu)
  alike ha := by
    rintro t l ⟨hl, hm⟩
    rw [ha.attached] at hl
    rw [ha.history] at hm
    exact ⟨hl, hm⟩
  deliver i value s := by
    rintro t l ⟨hl, hm⟩
    rcases hm.of_concat with ⟨_, _, he⟩ | ⟨hm, -⟩
    · cases he
    · exact ⟨hl, hm⟩
  drop := serving_detach
  name _ _ _ _ _ _ hu := hu

/-! ## Handing out serves -/

/-- **Whoever a value is handed to is served**, if it stays attached. -/
theorem Handed.not_unserved {value : Bool} (hreact : Keeping Serving react) (hs : Orderly s)
    (h : Handed react value l s s') (t : Text) : ¬ Unserved s' t l := by
  have hdeliver : ¬ Unserved (s.deliver l value) t l := fun hu =>
    not_missed_handed t l value s.history hu.2
  cases h with
  | passed hc =>
    rintro ⟨hl, -⟩
    obtain ⟨y, hy, -, ho⟩ := hs.member hl
    obtain ⟨x, hx, rfl⟩ := Option.map_eq_some_iff.1 hy
    rw [Listener.closed_bare, hc x hx] at ho
    cases ho
  | called hx h =>
    intro hu
    have hs' : Orderly (s.deliver l value) := (Proper.deliver admits_serving hx value hs).1
    have hcall := (hreact l value _ hs').2.2
    rcases h with rfl | ⟨severity, message, rfl⟩
    · exact hdeliver (hcall t l hu)
    · exact hdeliver (hcall t l hu)
  | stored => exact hdeliver
  | queued => exact hdeliver
  | lost => exact hdeliver
  | dropped hx =>
    rintro ⟨hl, -⟩
    exact hs.not_mem_detach (kind?_of_listener? hx) rfl t hl

/-- Whoever stands in a list is served when the value has been handed out to all of it. -/
theorem not_unserved_fanOut {value : Bool} {ls : List ListenerId} (hreact : Keeping Serving react)
    (hs : Orderly s) (hl : l ∈ ls) (t : Text) : ¬ Unserved (fanOut react value ls s) t l := by
  induction ls generalizing s with
  | nil => cases hl
  | cons i ls ih =>
    have hi := handed_handed react value (l := i) hs.listener?_ordinary
    have hs' := (hi.proper admits_serving hreact hs).1
    rw [fanOut_cons react value ls hs.listener?_ordinary]
    rcases List.mem_cons.1 hl with rfl | hl
    · intro hu
      have hlater := (proper_fanOut admits_serving hreact value ls _ hs').2.2
      exact hi.not_unserved hreact hs t (hlater t l hu)
    · exact ih hs' hl

/-! ## Operations leave nobody unserved -/

theorem serving_ensure (topic : Text) (b : Bool) (s : Switchboard) :
    Serving s (s.ensure topic b) := by
  rintro t l ⟨hl, hm⟩
  rw [attached_ensure] at hl
  refine ⟨hl, ?_⟩
  unfold ensure at hm
  split at hm
  · exact hm
  · rename_i hn
    rcases hm.of_concat with ⟨_, _, he⟩ | ⟨hm, -⟩
    · -- without a signal nobody is attached
      cases he
      rw [attached, Option.not_isSome_iff_eq_none.1 hn] at hl
      cases hl
    · exact hm

/-- A writing leaves unserved those who listen to its topic. -/
theorem Unserved.of_written {w : Writing} (h : Unserved (s.written w) t l) (ht : t ≠ w.topic) :
    Unserved s t l := by
  obtain ⟨hl, hm⟩ := h
  rw [written, attached_write] at hl
  refine serving_ensure w.topic w.initial s t l ⟨hl, ?_⟩
  rcases hm.of_concat with ⟨_, _, he⟩ | ⟨hm, -⟩
  · cases he
    exact absurd rfl ht
  · exact hm

/-- An entrance leaves unserved the one who enters. -/
theorem Unserved.of_entered {e : Entrance} (h : Unserved (s.entered e) t l)
    (hl : l ≠ s.listeners.length) : Unserved s t l := by
  refine serving_ensure e.topic (s.first e) s t l ⟨?_, h.2⟩
  have hmem := h.1
  rw [attached_entered] at hmem
  rw [attached_ensure]
  split at hmem
  · exact (List.mem_append.1 hmem).resolve_right fun hi => hl (List.mem_singleton.1 hi)
  · exact hmem

/-- **Whatever an operation comes to, nobody attached is left unserved.** -/
theorem kept_serving : Kept plain Serving where
  admits := admits_serving
  rewrite _ _ _ _ _ hu := hu
  plain := id
  operate {react o s} hreact ho hs := by
    refine (execute_effect react ho s).keeps admits_serving ?_ ?_ ?_
    · exact ⟨fun _ _ _ hu => hu, fun topic b _ => serving_ensure topic b s,
        fun e _ => serving_ensure _ _ s, fun topic l => serving_detach topic l s⟩
    · intro w _ t l hu
      have hw := (hs.redefined o).written w
      have hbefore := (proper_fanOut admits_serving hreact w.value (s.attached w.topic) _ hw).2.2
        t l hu
      by_cases ht : t = w.topic
      · have hl : l ∈ s.attached w.topic := by
          have hmem := hbefore.1
          rwa [written, attached_write, attached_ensure, ht] at hmem
        exact absurd hu (not_unserved_fanOut hreact hw hl t)
      · exact Unserved.of_written (s := s.redefined o) hbefore ht
    · intro e he t l hu
      have hent := hs.entered he
      have hbefore := (proper_handed admits_serving hreact ((s.entered e).value e.topic)
        s.listeners.length _ hent).2.2 t l hu
      refine hbefore.of_entered ?_
      rintro rfl
      exact (handed_handed react _ hent.listener?_ordinary).not_unserved hreact hent t hu

/-! ## The last value received -/

theorem Reachable.voiced (h : Reachable plain s) : Voiced s := by
  obtain ⟨roster, os, hr⟩ := h
  exact (kept_voicing.run hr (Orderly.ofRoster roster)).2.2 fun _ => rfl

/-- **Nobody misses anything**: since the last writing of a topic, all its listeners were served. -/
theorem Reachable.served (h : Reachable plain s) (topic : Text) (l : ListenerId) :
    ¬ Unserved s topic l := by
  obtain ⟨roster, os, hr⟩ := h
  intro hu
  have hstart := (kept_serving.run hr (Orderly.ofRoster roster)).2.2 topic l hu
  cases hstart.1

/-- After the last value a listener received, its topic was not written. -/
theorem Reachable.given_eq_nil (h : Reachable plain s) (hl : l ∈ s.attached topic)
    {before after : List Event} {value : Bool}
    (he : s.history = before ++ .handed l value :: after) (ha : received l after = []) :
    given topic after = [] := by
  refine Decidable.byContradiction fun hne => ?_
  obtain ⟨b, hb⟩ := Option.isSome_iff_exists.1 (List.getLast?_isSome.2 hne)
  obtain ⟨x, ls, y, rfl, -⟩ := getLast?_given.1 hb
  rw [received_append, List.append_eq_nil_iff] at ha
  refine h.served topic l ⟨hl, before ++ .handed l value :: x, b, ls, y, ?_, ?_⟩
  · rw [he, List.append_assoc]
    rfl
  · exact ha.2

theorem Reachable.last_given (h : Reachable plain s) (hl : l ∈ s.attached topic) :
    (given topic s.history).getLast? = some (s.value topic) := by
  rw [h.voiced topic, value_eq]
  cases hs : s.signal? topic with
  | none =>
    rw [attached, hs] at hl
    cases hl
  | some signal =>
    rw [value?, hs]
    rfl

/-- **The last value received is the present one** if and only if it was so when it was handed
over. -/
theorem Reachable.last_iff (h : Reachable plain s) (hl : l ∈ s.attached topic) :
    (received l s.history).getLast? = some (s.value topic) ↔ ¬ Overtaken topic l s.history := by
  -- what the topic has been given before the last value received is all it has been given
  have hgiven {before after : List Event} {value : Bool}
      (he : s.history = before ++ .handed l value :: after) (ha : received l after = []) :
      (given topic before).getLast? = some (s.value topic) := by
    have hlast := h.last_given hl
    rwa [he, given_append, ← List.singleton_append, given_append, given_handed,
      h.given_eq_nil hl he ha, List.append_nil, List.append_nil] at hlast
  constructor
  · rintro hlast ⟨before, value, after, he, ha, hne⟩
    rw [getLast?_received.2 ⟨before, after, he, ha⟩] at hlast
    exact hne ((hgiven he ha).trans hlast.symm)
  · intro hn
    have hne : received l s.history ≠ [] := by
      intro hnil
      obtain ⟨before, ls, after, he, -⟩ := getLast?_given.1 (h.last_given hl)
      rw [he, received_append, List.append_eq_nil_iff] at hnil
      exact h.served topic l ⟨hl, before, _, ls, after, he, hnil.2⟩
    obtain ⟨value, hv⟩ := Option.isSome_iff_exists.1 (List.getLast?_isSome.2 hne)
    obtain ⟨before, after, he, ha⟩ := getLast?_received.1 hv
    have hstill : (given topic before).getLast? = some value :=
      Decidable.byContradiction fun hne => hn ⟨before, value, after, he, ha, hne⟩
    exact hv.trans (hstill.symm.trans (hgiven he ha))

/-- **When an operation has returned**, whatever callbacks did meanwhile, a listener that is
attached has the present value of its topic for its last one if and only if it was not overtaken. -/
theorem last_received_iff_not_overtaken (hs : Reachable plain s) (hreact : Lawful plain react)
    {o : Operation} (ho : o.isPlain) :
    let s' := after (execute react o) s
    ∀ {topic : Text} {l : ListenerId}, l ∈ s'.attached topic →
      ((received l s'.history).getLast? = some (s'.value topic) ↔
        ¬ Overtaken topic l s'.history) :=
  fun hl => (hs.operate hreact ho).last_iff hl

/-- A callback that updates a flag whenever it receives that one is on. -/
def contrary (f : Flag) : React
  | _, true => do
    let _ ← execute (fun _ _ => pure ()) (.change (.update (.ok f)))
  | _, false => return

theorem contrary_eq_whenOn (f : Flag) : contrary f = whenOn (.change (.update (.ok f))) := by
  funext l value
  cases value <;> rfl

theorem lawful_contrary (f : Flag) : Lawful plain (contrary f) := by
  rw [contrary_eq_whenOn]
  exact lawful_whenOn fun _ => rfl

/-- A reader behind a contrary callback is overtaken. -/
theorem overtaken_behind_contrary :
    let start := after (execute (fun _ _ => pure ()) (.subscribe "a" "f" none [])) (ofRoster [])
    let s := after (execute (fun _ _ => pure ()) (.observe "o" "f" none)) start
    let s' := after (execute (contrary ⟨"f", false, .unrestricted⟩)
      (.change (.update (.ok ⟨"f", true, .unrestricted⟩)))) s
    1 ∈ s'.attached "f" ∧ Overtaken "f" 1 s'.history := by
  intro start s s'
  have hs : Reachable plain s :=
    ((reachable_ofRoster []).operate lawful_idle rfl).operate lawful_idle rfl
  have hl : 1 ∈ s'.attached "f" := by
    have ha : s'.attached "f" = [0, 1] := by decide +kernel
    rw [ha]
    exact List.mem_cons_of_mem 0 List.mem_cons_self
  refine ⟨hl, ?_⟩
  have hiff := last_received_iff_not_overtaken hs (lawful_contrary ⟨"f", false, .unrestricted⟩)
    (o := .change (.update (.ok ⟨"f", true, .unrestricted⟩))) rfl hl
  have hlast : (received 1 s'.history).getLast? ≠ some (s'.value "f") := by decide +kernel
  exact Classical.byContradiction fun hn => hlast (hiff.2 hn)

/-- **The last value may be a stale one**: the script of a callback turns a flag off as soon as it
is on, and a reader attached after the callback ends up with the value that was first. -/
theorem last_received_stale :
    let script : Script :=
      [.perform (some true) 1 (.change (.update (.ok ⟨"f", false, .unrestricted⟩)))]
    let start := after (perform (.subscribe "a" "f" none script)) (ofRoster [])
    let s := after (perform (.observe "o" "f" none)) start
    let s' := after (perform (.change (.update (.ok ⟨"f", true, .unrestricted⟩)))) s
    s'.attached "f" = [0, 1] ∧ received 0 s'.history = [false, true, false] ∧
      received 1 s'.history = [false, false, true] ∧ s'.value "f" = false :=
  ⟨rfl, rfl, rfl, rfl⟩

end Switchboard

end FeatureFlags

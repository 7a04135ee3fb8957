import FeatureFlags.Proofs.Switchboard.Keeping

/-!
# Proofs/Switchboard/History — reading a history

What a listener received, and what a topic was given, are read off the history.  The value of a
topic is what it was given last (`Voiced`), at every moment.
-/

namespace FeatureFlags

namespace Event

/-- The value a listener receives by an event. -/
def receivedBy (l : ListenerId) : Event → Option Bool
  | .written _ _ _ => none
  | .handed i value => if i = l then some value else none

/-- The value a topic gets by an event. -/
def givenTo (topic : Text) : Event → Option Bool
  | .written t value _ => if t = topic then some value else none
  | .handed _ _ => none

end Event

/-- **What a listener received**, in order. -/
def received (l : ListenerId) (history : List Event) : List Bool :=
  history.filterMap (Event.receivedBy l)

/-- **What a topic was given**, in order. -/
def given (topic : Text) (history : List Event) : List Bool :=
  history.filterMap (Event.givenTo topic)

theorem received_append (l : ListenerId) (h h' : List Event) :
    received l (h ++ h') = received l h ++ received l h' := List.filterMap_append

theorem given_append (topic : Text) (h h' : List Event) :
    given topic (h ++ h') = given topic h ++ given topic h' := List.filterMap_append

@[simp] theorem received_written (l : ListenerId) (topic : Text) (value : Bool)
    (ls : List ListenerId) : received l [.written topic value ls] = [] := rfl

@[simp] theorem received_handed (l i : ListenerId) (value : Bool) :
    received l [.handed i value] = if i = l then [value] else [] := by
  rw [received, List.filterMap_cons, Event.receivedBy]
  by_cases h : i = l
  · rw [if_pos h, if_pos h]
    rfl
  · rw [if_neg h, if_neg h]
    rfl

@[simp] theorem given_handed (topic : Text) (i : ListenerId) (value : Bool) :
    given topic [.handed i value] = [] := rfl

@[simp] theorem given_written (topic t : Text) (value : Bool) (ls : List ListenerId) :
    given topic [.written t value ls] = if t = topic then [value] else [] := by
  rw [given, List.filterMap_cons, Event.givenTo]
  by_cases h : t = topic
  · rw [if_pos h, if_pos h]
    rfl
  · rw [if_neg h, if_neg h]
    rfl

/-! ## The last event of a kind -/

/-- **The last value that is kept**, where it stands. -/
theorem getLast?_filterMap_eq_some {α β : Type} {f : α → Option β} {xs : List α} {b : β} :
    (xs.filterMap f).getLast? = some b ↔
      ∃ before x after, xs = before ++ x :: after ∧ f x = some b ∧ after.filterMap f = [] := by
  rw [List.getLast?_eq_some_iff]
  constructor
  · rintro ⟨ys, h⟩
    obtain ⟨before, rest, rfl, -, hrest⟩ := List.filterMap_eq_append_iff.1 h
    obtain ⟨between, x, after, rfl, -, hx, hafter⟩ := List.filterMap_eq_cons_iff.1 hrest
    exact ⟨before ++ between, x, after, (List.append_assoc _ _ _).symm, hx, hafter⟩
  · rintro ⟨before, x, after, rfl, hx, hafter⟩
    refine ⟨before.filterMap f, ?_⟩
    rw [List.filterMap_append, List.filterMap_cons, hx, hafter]

theorem getLast?_received {l : ListenerId} {h : List Event} {value : Bool} :
    (received l h).getLast? = some value ↔
      ∃ before after, h = before ++ .handed l value :: after ∧ received l after = [] := by
  rw [received, getLast?_filterMap_eq_some]
  constructor
  · rintro ⟨before, e, after, rfl, he, ha⟩
    cases e with
    | written topic b ls => cases he
    | handed i b =>
      rw [Event.receivedBy, Option.ite_none_right_eq_some] at he
      obtain ⟨rfl, hb⟩ := he
      cases hb
      exact ⟨before, after, rfl, ha⟩
  · rintro ⟨before, after, rfl, ha⟩
    exact ⟨before, _, after, rfl, if_pos rfl, ha⟩

theorem getLast?_given {topic : Text} {h : List Event} {value : Bool} :
    (given topic h).getLast? = some value ↔
      ∃ before ls after, h = before ++ .written topic value ls :: after ∧
        given topic after = [] := by
  rw [given, getLast?_filterMap_eq_some]
  constructor
  · rintro ⟨before, e, after, rfl, he, ha⟩
    cases e with
    | handed i b => cases he
    | written t b ls =>
      rw [Event.givenTo, Option.ite_none_right_eq_some] at he
      obtain ⟨rfl, hb⟩ := he
      cases hb
      exact ⟨before, ls, after, rfl, ha⟩
  · rintro ⟨before, ls, after, rfl, ha⟩
    exact ⟨before, _, after, rfl, if_pos rfl, ha⟩

/-! ## What topics were given last -/

namespace Switchboard

variable {react : React} {s s' : Switchboard}

/-- **A topic has the value it was given last**, and none if it was given none. -/
def Voiced (s : Switchboard) : Prop := ∀ topic, (given topic s.history).getLast? = s.value? topic

namespace Voiced

theorem of_eq (h : Voiced s) (hh : ∀ topic, given topic s'.history = given topic s.history)
    (hv : ∀ topic, s'.value? topic = s.value? topic) : Voiced s' := by
  intro topic
  rw [hh, hv]
  exact h topic

theorem alike (h : Voiced s) (ha : Alike s s') : Voiced s' := by
  refine h.of_eq (fun topic => ?_) ha.value?
  rw [ha.history]

theorem ensure (h : Voiced s) (topic : Text) (b : Bool) : Voiced (s.ensure topic b) := by
  intro t
  rw [value?_ensure]
  unfold Switchboard.ensure
  split
  · rename_i hs
    rw [h t]
    by_cases ht : t = topic
    · obtain ⟨signal, hs⟩ := Option.isSome_iff_exists.1 hs
      rw [if_pos ht, ht, value?, hs]
      rfl
    · rw [if_neg ht]
  · rename_i hs
    have hn : s.value? topic = none := by
      rw [value?, Option.not_isSome_iff_eq_none.1 hs]
      rfl
    rw [given_append, given_written]
    by_cases ht : t = topic
    · rw [if_pos ht.symm, if_pos ht, List.getLast?_concat, ht, hn]
      rfl
    · rw [if_neg (Ne.symm ht), if_neg ht, List.append_nil]
      exact h t

theorem write (h : Voiced s) {topic : Text} (hs : (s.signal? topic).isSome) (value : Bool) :
    Voiced (s.write topic value) := by
  intro t
  rw [value?_write, Switchboard.write, given_append, given_written]
  by_cases ht : t = topic
  · obtain ⟨signal, hs⟩ := Option.isSome_iff_exists.1 hs
    rw [if_pos ht.symm, if_pos ht, List.getLast?_concat, ht, value?, hs]
    rfl
  · rw [if_neg (Ne.symm ht), if_neg ht, List.append_nil]
    exact h t

theorem written (h : Voiced s) (w : Writing) : Voiced (s.written w) :=
  (h.ensure w.topic w.initial).write (isSome_signal?_ensure w.topic w.initial s) w.value

theorem entered (h : Voiced s) (e : Entrance) : Voiced (s.entered e) :=
  (h.ensure e.topic (s.first e)).of_eq (fun _ => rfl) fun t => value?_attach e.topic t _ _

end Voiced

/-- What keeps topics at what they were given. -/
def Voicing (s s' : Switchboard) : Prop := Voiced s → Voiced s'

theorem admits_voicing : Admits Voicing where
  trans h h' hs := h' (h hs)
  alike ha hs := hs.alike ha
  deliver l value s hs := by
    refine hs.of_eq (fun topic => ?_) fun _ => rfl
    rw [deliver, given_append, given_handed, List.append_nil]
  drop topic l s hs := hs.of_eq (fun _ => rfl) fun t => value?_detach topic t l s
  name _ _ _ _ hs := hs

theorem kept_voicing : Kept plain Voicing where
  admits := admits_voicing
  rewrite _ _ _ hv := hv
  plain := id
  operate {react o s} hreact ho hs := by
    refine (execute_effect react ho s).keeps admits_voicing ?_ ?_ ?_
    · exact ⟨fun _ hv => hv, fun topic b _ hv => hv.ensure topic b, fun e _ hv => hv.ensure _ _,
        fun topic l hv => hv.of_eq (fun _ => rfl) fun t => value?_detach topic t l s⟩
    · intro w _
      exact keeps_fanOut admits_voicing hreact hs fun hv =>
        Voiced.written (s := s.redefined o) hv w
    · intro e he
      exact keeps_handed admits_voicing hreact hs he fun hv => hv.entered e

end Switchboard

end FeatureFlags

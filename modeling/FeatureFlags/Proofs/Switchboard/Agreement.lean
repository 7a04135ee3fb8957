import FeatureFlags.Proofs.Switchboard.Keeping

/-!
# Proofs/Switchboard/Agreement — signals tell what the flags say

A topic's signal and the flag of its name are kept apart: flags are saved without any signal, and
signals written without any flag.  As long as topics are only written by updates of flags, get their
first value from the flags, and flags are saved only where no signal could tell of it
(`viaRegistry`), the two agree (`Agrees`) at every moment, also while values are handed out and
callbacks do the same again (`signal_agrees`).
-/

namespace FeatureFlags

namespace Roster

theorem isEnabled_upsert (r : Roster) (f : Flag) (name : Text) :
    (r.upsert f).isEnabled name = if f.name = name then f.enabled else r.isEnabled name := by
  rw [isEnabled, stateOr, get?_upsert, isEnabled, stateOr]
  by_cases h : f.name = name
  · rw [if_pos h, if_pos h]
    rfl
  · rw [if_neg h, if_neg h]

/-- **Flags behind all others** are not seen under a name that is taken, or not theirs. -/
theorem isEnabled_insertAll {r : Roster} {fs : List Flag} {name : Text}
    (h : ∀ f ∈ fs, f.name = name → r.contains name) :
    (r.insertAll fs).isEnabled name = r.isEnabled name := by
  have hget : (r.insertAll fs).get? name = r.get? name := by
    rw [get?, insertAll, List.find?_append, get?]
    cases hr : r.find? (·.name = name) with
    | some g => rfl
    | none =>
      rw [Option.none_or, List.find?_eq_none]
      intro f hf hname
      have hc := h f hf (of_decide_eq_true hname)
      rw [contains, get?, hr] at hc
      cases hc
  rw [isEnabled, stateOr, hget, isEnabled, stateOr]

end Roster

namespace Switchboard

variable {react : React} {s s' : Switchboard}

/-! ## What may be done -/

/-- A flag may be saved without anybody noticing: its name is taken, or has no signal. -/
def Unheard (s : Switchboard) (f : Flag) : Prop :=
  s.roster.contains f.name = true ∨ s.signal? f.name = none

/-- **What is done by way of a registry**: topics are written by updates, and first have the state
of their flags; flags are saved where nobody notices; listeners come and go. -/
def viaRegistry : Operation → Switchboard → Prop
  | .change (.update _), _ => True
  | .change (.save flag), s => ∀ f, flag = .ok f → s.Unheard f
  | .change (.saveAll flags), s => ∀ fs, flags = .ok fs → ∀ f ∈ fs, s.Unheard f
  | .query _, _ => True
  | .subscribe _ _ initial _, _ => initial = none
  | .observe _ _ initial, _ => initial = none
  | .observeAsync _ _ initial _, _ => initial = none
  | .unsubscribe _, _ => True
  | .current _, _ => True
  | .known _, _ => True
  | .poll _, _ => True
  | .next _, _ => True
  | .close _, _ => True
  | .isClosed _, _ => True
  | .topicOf _, _ => True
  | .closeLoop _, _ => True
  | _, _ => False

theorem plain_of_viaRegistry {o : Operation} (h : viaRegistry o s) : o.isPlain := by
  cases o <;> first | rfl | exact h.elim

/-- A topic written by way of a registry is written by an update. -/
theorem update_of_viaRegistry {o : Operation} {w : Writing} (h : viaRegistry o s)
    (ho : o.writing? = some w) :
    ∃ f, o = .change (.update (.ok f)) ∧ w = ⟨f.name, f.enabled, f.enabled⟩ := by
  cases o with
  | change c =>
    cases c with
    | update flag =>
      cases flag with
      | error issues => cases ho
      | ok f => exact ⟨f, rfl, (Option.some.inj ho).symm⟩
    | _ => cases ho
  | publish topic value => exact h.elim
  | set topic value => exact h.elim
  | _ => cases ho

theorem initial_of_viaRegistry {o : Operation} {e : Entrance} (h : viaRegistry o s)
    (ho : o.entrance? = some e) : e.initial = none := by
  cases o <;> cases ho <;> exact h

theorem ensures?_of_viaRegistry {o : Operation} (h : viaRegistry o s) : o.ensures? = none := by
  cases o <;> first | rfl | exact h.elim

/-! ## Agreement -/

/-- **Signals and flags agree.** -/
def Agrees (s : Switchboard) : Prop :=
  ∀ topic value, s.value? topic = some value → value = s.roster.isEnabled topic

namespace Agrees

theorem of_eq (h : Agrees s) (hv : ∀ topic, s'.value? topic = s.value? topic)
    (hr : s'.roster = s.roster) : Agrees s' := by
  intro topic value ht
  rw [hr]
  exact h topic value ((hv topic).symm.trans ht)

theorem alike (h : Agrees s) (ha : Alike s s') : Agrees s' := h.of_eq ha.value? ha.roster

theorem detach (h : Agrees s) (topic : Text) (l : ListenerId) : Agrees (s.detach topic l) :=
  h.of_eq (fun t => value?_detach topic t l s) rfl

/-- A signal that comes with the state of its flag. -/
theorem ensure (h : Agrees s) {e : Entrance} (he : e.initial = none) :
    Agrees (s.ensure e.topic (s.first e)) := by
  intro t value ht
  rw [roster_ensure]
  rw [value?_ensure] at ht
  by_cases htopic : t = e.topic
  · rw [if_pos htopic] at ht
    cases hv : s.value? t with
    | some b => exact h t value (by rw [hv, ← ht, hv]; rfl)
    | none =>
      rw [hv, first, he] at ht
      rw [htopic]
      exact (Option.some.inj ht).symm
  · rw [if_neg htopic] at ht
    exact h t value ht

theorem entered (h : Agrees s) {e : Entrance} (he : e.initial = none) : Agrees (s.entered e) :=
  (h.ensure he).of_eq (fun t => value?_attach e.topic t s.listeners.length _) rfl

/-- **An updated flag and its topic** change together. -/
theorem written (h : Agrees s) {o : Operation} {w : Writing} (ho : viaRegistry o s)
    (hw : o.writing? = some w) : Agrees ((s.redefined o).written w) := by
  obtain ⟨f, rfl, rfl⟩ := update_of_viaRegistry ho hw
  intro t value ht
  have hroster : ((s.redefined (.change (.update (.ok f)))).written
      ⟨f.name, f.enabled, f.enabled⟩).roster = s.roster.upsert f := roster_ensure _ _ _
  rw [hroster, Roster.isEnabled_upsert]
  rw [value?_written] at ht
  by_cases htopic : t = f.name
  · rw [if_pos htopic] at ht
    rw [if_pos htopic.symm]
    exact (Option.some.inj ht).symm
  · rw [if_neg htopic] at ht
    rw [if_neg (Ne.symm htopic)]
    exact h t value ht

/-- Flags saved where nobody notices. -/
theorem saved (h : Agrees s) {fs : List Flag} (hfs : ∀ f ∈ fs, s.Unheard f) :
    Agrees { s with roster := s.roster.insertAll fs } := by
  intro t value ht
  change s.value? t = some value at ht
  refine (h t value ht).trans (Roster.isEnabled_insertAll fun f hf hname => ?_).symm
  subst hname
  refine (hfs f hf).elim id fun hn => ?_
  rw [value?, hn] at ht
  cases ht

/-- What does nothing with signals leaves the flags as they are, or saves some. -/
theorem idle (h : Agrees s) {o : Operation} (ho : viaRegistry o s) (hi : o.writing? = none) :
    Agrees (s.redefined o) := by
  cases o with
  | change c =>
    cases c with
    | save flag =>
      cases flag with
      | error issues => exact h
      | ok f =>
        have hf : ∀ g ∈ [f], s.Unheard g := by
          intro g hg
          rw [List.mem_singleton.1 hg]
          exact ho f rfl
        exact h.saved hf
    | saveAll flags =>
      cases flags with
      | error issues => exact h
      | ok fs => exact h.saved (ho fs rfl)
    | update flag =>
      cases flag with
      | error issues => exact h
      | ok f => cases hi
    | _ => exact ho.elim
  | _ => exact h

end Agrees

/-! ## Agreement is kept -/

/-- What keeps signals and flags in agreement. -/
def Agreeing (s s' : Switchboard) : Prop := Agrees s → Agrees s'

theorem admits_agreeing : Admits Agreeing where
  trans h h' hs := h' (h hs)
  alike ha hs := hs.alike ha
  deliver _ _ _ hs := hs
  drop topic l _ hs := hs.detach topic l
  name _ _ _ _ hs := hs

/-- **An operation that goes by way of a registry keeps agreement**, if callbacks do. -/
theorem kept_agreeing : Kept viaRegistry Agreeing where
  admits := admits_agreeing
  rewrite _ _ _ hs := hs
  plain := plain_of_viaRegistry
  operate {react o s} hreact ho hs := by
    refine (execute_effect react (plain_of_viaRegistry ho) s).keeps admits_agreeing ?_ ?_ ?_
    · refine ⟨fun hw ha => ha.idle ho hw, fun topic b he => ?_, fun e he ha => ?_,
        fun topic l ha => ?_⟩
      · cases (ensures?_of_viaRegistry ho).symm.trans he
      · exact ha.ensure (initial_of_viaRegistry ho he)
      · exact ha.detach topic l
    · intro w hw
      exact keeps_fanOut admits_agreeing hreact hs fun ha => ha.written ho hw
    · intro e he
      exact keeps_handed admits_agreeing hreact hs he fun ha =>
        ha.entered (initial_of_viaRegistry ho he)

/-- Agreement where an operation calls a callback. -/
theorem Calls.agrees {o : Operation} (h : Calls react o s s') (hreact : Lawful viaRegistry react)
    (ho : viaRegistry o s) (hs : Orderly s) (ha : Agrees s) : Orderly s' ∧ Agrees s' := by
  cases h with
  | @told w passed rest l x hw _ hx _ =>
    have hfan := (proper_fanOut admits_agreeing (kept_agreeing.lawful hreact) w.value passed
      _).trans admits_agreeing (.deliver admits_agreeing hx w.value) ((hs.redefined o).written w)
    exact ⟨hfan.1, hfan.2.2 (ha.written ho hw)⟩
  | @entered e he _ =>
    have hx : (s.entered e).listener? s.listeners.length = some e.listener := by
      rw [listener?, listeners_entered, List.getElem?_concat_length]
    have hdel := Proper.deliver admits_agreeing hx ((s.entered e).value e.topic) (hs.entered he)
    exact ⟨hdel.1, hdel.2.2 (ha.entered (initial_of_viaRegistry ho he))⟩

/-- **Signals and flags agree at every moment.** -/
theorem Moment.agrees (h : Moment viaRegistry s) : Orderly s ∧ Agrees s := by
  induction h with
  | start roster => exact ⟨.ofRoster roster, nofun⟩
  | unnoticed _ ha ih => exact ⟨ih.1.alike ha, ih.2.alike ha⟩
  | performed _ hreact ho ih =>
    have hp := kept_agreeing.execute (kept_agreeing.lawful hreact) ho ih.1
    exact ⟨hp.1, hp.2.2 ih.2⟩
  | called _ hreact ho hc ih => exact hc.agrees hreact ho ih.1 ih.2

/-- **A signal tells what the flag of its name says**, at every moment of all that is done by way of
a registry, callbacks included. -/
theorem signal_agrees (h : Moment viaRegistry s) {topic : Text} {signal : Signal}
    (hs : s.signal? topic = some signal) : signal.value = s.roster.isEnabled topic := by
  refine h.agrees.2 topic signal.value ?_
  rw [value?, hs]
  rfl

/-- A callback that is told of an update finds the topic on, and the flag as well. -/
theorem signal_agrees_toldOfUpdate :
    let s := after (execute (fun _ _ => pure ()) (.subscribe "a" "f" none [])) (ofRoster [])
    let o : Operation := .change (.update (.ok ⟨"f", true, .unrestricted⟩))
    let s' := ((s.redefined o).written ⟨"f", true, true⟩).deliver 0 true
    Moment viaRegistry s' ∧ s'.signal? "f" = some ⟨true, [0]⟩ ∧
      s'.roster.isEnabled "f" = true := by
  intro s o s'
  have hs : Moment viaRegistry s := .performed (.start []) lawful_idle rfl
  have hc : Calls (fun _ _ => pure ()) o s s' :=
    @Calls.told _ o s ⟨"f", true, true⟩ [] [] 0 (.callback "a" "f" []) rfl rfl rfl rfl
  have ho : viaRegistry o s := trivial
  have hm : Moment viaRegistry s' := .called hs lawful_idle ho hc
  have hf : s'.signal? "f" = some ⟨true, [0]⟩ := rfl
  exact ⟨hm, hf, (signal_agrees hm hf).symm⟩

end Switchboard

end FeatureFlags

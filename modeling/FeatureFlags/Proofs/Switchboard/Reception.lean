import FeatureFlags.Proofs.Switchboard.Quiet

/-!
# Proofs/Switchboard/Reception — what a subscribed callback receives

As long as callbacks do nothing but fail, a callback receives the value its topic has when it
subscribes, and then what its topic is given until it is unsubscribed, in this order and nothing
twice.  All of it is read off the operations alone: `heard` is what reaches a subscription after its
beginning, `standing` the value a topic has after some operations.  Neither sees anything of other
topics, of other callbacks, or of failures (`received_of_subscription`).

    operations   ── subscribe a ── publish ── subscribe b ── publish ── unsubscribe a ── publish ──▸
    a receives        │               │                         │
                   standing           └────────── heard ────────┘
-/

namespace FeatureFlags

/-! ## What is read off operations -/

/-- The values a topic gets by operations. -/
def tidings (topic : Text) (os : List Operation) : List Bool := os.filterMap (·.tidings? topic)

/-- **What reaches a subscription**: the values its topic gets until it is unsubscribed.  If another
subscription takes its identifier before, nobody can unsubscribe it any more. -/
def heard (id topic : Text) : List Operation → List Bool
  | [] => []
  | o :: os =>
    if o.ends id then []
    else if o.reuses id then tidings topic os
    else (o.tidings? topic).toList ++ heard id topic os

namespace Operation

/-- An operation is of concern to a subscription. -/
def reaches (id topic : Text) (o : Operation) : Bool :=
  o.ends id || o.reuses id || (o.tidings? topic).isSome

/-- An operation is of concern to the value of a topic, if only because it changes flags. -/
def shapes (topic : Text) (o : Operation) : Bool :=
  o.writing?.any (·.topic = topic) || o.entrance?.any (·.topic = topic) ||
    o.ensures?.any (·.1 = topic) || o matches .change _

/-- The value of a topic after an operation, if it has one. -/
def value? (topic : Text) (o : Operation) (r : Roster) (v : Option Bool) : Option Bool :=
  match o.writing?, o.entrance?, o.ensures? with
  | some w, _, _ => if w.topic = topic then some w.value else v
  | none, some e, _ =>
    if e.topic = topic then some (v.getD (e.initial.getD (r.isEnabled topic))) else v
  | none, none, some (t, b) => if t = topic then some (v.getD b) else v
  | none, none, none => v

section

variable {o : Operation} (topic : Text) (r : Roster) (v : Option Bool)

theorem value?_of_writing? {w : Writing} (h : o.writing? = some w) :
    o.value? topic r v = if topic = w.topic then some w.value else v := by
  rw [value?, h]
  simp only [eq_comm]

theorem value?_of_entrance? {e : Entrance} (h : o.entrance? = some e) :
    o.value? topic r v
      = if topic = e.topic then some (v.getD (e.initial.getD (r.isEnabled e.topic))) else v := by
  rw [value?, h, writing?_of_entrance? h]
  by_cases ht : e.topic = topic
  · simp only [ht, if_true]
  · simp only [if_neg ht, if_neg (Ne.symm ht)]

theorem value?_of_ensures? {t : Text} {b : Bool} (h : o.ensures? = some (t, b)) :
    o.value? topic r v = if topic = t then some (v.getD b) else v := by
  rw [value?, h, writing?_of_ensures? h, entrance?_of_ensures? h]
  simp only [eq_comm]

end

end Operation

/-- **The flags and the value of a topic** after one more operation. -/
def standing (topic : Text) (p : Roster × Option Bool) (o : Operation) : Roster × Option Bool :=
  (o.roster p.1, o.value? topic p.1 p.2)

theorem tidings_cons (topic : Text) (o : Operation) (os : List Operation) :
    tidings topic (o :: os) = (o.tidings? topic).toList ++ tidings topic os := by
  rw [tidings, List.filterMap_cons, tidings]
  cases o.tidings? topic <;> rfl

theorem tidings_filter (id topic : Text) (os : List Operation) :
    tidings topic (os.filter (·.reaches id topic)) = tidings topic os := by
  rw [tidings, List.filterMap_filter, tidings]
  refine congrArg (List.filterMap · os) (funext fun o => ?_)
  by_cases h : o.reaches id topic
  · rw [if_pos h]
  · rw [if_neg h]
    rw [Operation.reaches, Bool.not_eq_true, Bool.or_eq_false_iff] at h
    exact (Option.not_isSome_iff_eq_none.1 (Bool.eq_false_iff.1 h.2)).symm

/-- **What does not concern a subscription** does not reach it. -/
theorem heard_filter (id topic : Text) (os : List Operation) :
    heard id topic (os.filter (·.reaches id topic)) = heard id topic os := by
  induction os with
  | nil => rfl
  | cons o os ih =>
    rw [List.filter_cons, heard]
    by_cases h : o.reaches id topic
    · rw [if_pos h, heard, ih, tidings_filter]
    · rw [if_neg h, ih]
      rw [Operation.reaches, Bool.not_eq_true, Bool.or_eq_false_iff, Bool.or_eq_false_iff] at h
      rw [h.1.1, h.1.2, Option.not_isSome_iff_eq_none.1 (Bool.eq_false_iff.1 h.2)]
      rfl

/-- What does not concern a topic leaves its value and the flags alone. -/
theorem standing_of_not_shapes {topic : Text} {o : Operation} (h : o.shapes topic = false)
    (p : Roster × Option Bool) : standing topic p o = p := by
  simp only [Operation.shapes, Bool.or_eq_false_iff] at h
  obtain ⟨⟨⟨hw, he⟩, hn⟩, hc⟩ := h
  have hroster : o.roster = id := by
    cases o with
    | change => cases hc
    | _ => rfl
  rw [standing, hroster, Operation.value?]
  split
  · rename_i w hw'
    rw [hw', Option.any_some, decide_eq_false_iff_not] at hw
    rw [if_neg hw]
    rfl
  · rename_i e hw' he'
    rw [he', Option.any_some, decide_eq_false_iff_not] at he
    rw [if_neg he]
    rfl
  · rename_i t b hw' he' hn'
    rw [hn', Option.any_some, decide_eq_false_iff_not] at hn
    rw [if_neg hn]
    rfl
  · rfl

theorem foldl_standing_filter (topic : Text) (os : List Operation) (p : Roster × Option Bool) :
    (os.filter (·.shapes topic)).foldl (standing topic) p = os.foldl (standing topic) p := by
  induction os generalizing p with
  | nil => rfl
  | cons o os ih =>
    rw [List.filter_cons, List.foldl_cons]
    by_cases h : o.shapes topic
    · rw [if_pos h, List.foldl_cons, ih]
    · rw [if_neg h, ih, standing_of_not_shapes (Bool.not_eq_true _ ▸ h)]

namespace Switchboard

variable {react : React} {s s' : Switchboard} {l : ListenerId} {id topic : Text}
  {os : List Operation}

/-! ## After the subscription -/

/-- What an operation tells who is attached to a topic is the topic's tidings. -/
theorem tells_of_mem (hs : Orderly s) (hd : l ∈ s.attached topic) (o : Operation) :
    s.tells o l = (o.tidings? topic).toList := by
  rw [tells, Operation.tidings?]
  cases o.writing? with
  | none => rfl
  | some w =>
    have hiff : l ∈ s.attached w.topic ↔ w.topic = topic :=
      ⟨fun hw => hs.topic_unique hw hd, fun he => he ▸ hd⟩
    by_cases he : w.topic = topic
    · rw [Option.bind_some, if_pos he]
      exact if_pos (hiff.2 he)
    · rw [Option.bind_some, if_neg he]
      exact if_neg fun hw => he (hiff.1 hw)

/-- One operation, for a callback that is there. -/
theorem follows_execute (hreact : Lawful quiet react) {o : Operation} (ho : o.isPlain)
    (hs : Orderly s) (hl : s.IsCallback l) :
    Orderly (after (execute react o) s) ∧ (after (execute react o) s).IsCallback l ∧
      Follows l o s (after (execute react o) s) := by
  have he := execute_effect react ho s
  obtain ⟨hs', hg⟩ := he.orderly kept_quiet.admits (kept_quiet.lawful hreact) hs
  exact ⟨hs', hl.grows hg, he.follows hreact hs hl⟩

/-- Who is attached nowhere receives nothing more. -/
theorem Run.received_of_detached (hr : Run plain quiet s os s') (hs : Orderly s)
    (hl : s.IsCallback l) (hd : ∀ topic, l ∉ s.attached topic) :
    received l s'.history = received l s.history := by
  induction hr with
  | done => rfl
  | unnoticed ha _ ih =>
    rw [ih (hs.alike ha) (hl.grows (.of_alike ha)) fun t => by rw [ha.attached]; exact hd t,
      ha.history]
  | @operate s _ o _ react hreact ho _ ih =>
    obtain ⟨hs', hl', hf⟩ := follows_execute hreact ho hs hl
    rw [ih hs' hl' fun t ht => hd t ((hf.attached t).1 ht).1, hf.received, tells]
    cases o.writing? with
    | none => exact List.append_nil _
    | some w => exact (congrArg _ (if_neg (hd w.topic))).trans (List.append_nil _)

/-- Who has no identifier any more receives all further tidings. -/
theorem Run.received_of_unnamed (hr : Run plain quiet s os s') (hs : Orderly s)
    (hl : s.IsCallback l) (hd : l ∈ s.attached topic)
    (hn : ∀ id, s.named? .subscription id ≠ some l) :
    received l s'.history = received l s.history ++ tidings topic os := by
  induction hr with
  | done => exact (List.append_nil _).symm
  | @unnoticed s s₁ _ _ ha _ ih =>
    have hn' : ∀ id, s₁.named? .subscription id ≠ some l := by
      intro id
      rw [named?, ha.directory]
      exact hn id
    rw [ih (hs.alike ha) (hl.grows (.of_alike ha)) (by rwa [ha.attached]) hn', ha.history]
  | @operate s _ o os react hreact ho _ ih =>
    obtain ⟨hs', hl', hf⟩ := follows_execute hreact ho hs hl
    have hd' : l ∈ (after (execute react o) s).attached topic := by
      refine (hf.attached topic).2 ⟨hd, ?_⟩
      rintro ⟨id, -, h⟩
      exact hn id h
    rw [ih hs' hl' hd' fun id h => hn id ((hf.named id).1 h).1, hf.received,
      tells_of_mem hs hd, List.append_assoc, tidings_cons]

/-- **Who has its identifier** receives what reaches its subscription. -/
theorem Run.received_of_named (hr : Run plain quiet s os s') (hs : Orderly s)
    (hl : s.IsCallback l) (hd : l ∈ s.attached topic)
    (hn : ∀ id', s.named? .subscription id' = some l ↔ id' = id) :
    received l s'.history = received l s.history ++ heard id topic os := by
  induction hr with
  | done => exact (List.append_nil _).symm
  | @unnoticed s s₁ _ _ ha _ ih =>
    have hn' : ∀ id', s₁.named? .subscription id' = some l ↔ id' = id := by
      intro id'
      rw [named?, ha.directory]
      exact hn id'
    rw [ih (hs.alike ha) (hl.grows (.of_alike ha)) (by rwa [ha.attached]) hn', ha.history]
  | @operate s _ o os react hreact ho hr ih =>
    obtain ⟨hs', hl', hf⟩ := follows_execute hreact ho hs hl
    have hunsub : s.Unsubscribes o l ↔ o.ends id = true := by
      refine ⟨?_, fun he => ⟨id, he, (hn id).2 rfl⟩⟩
      rintro ⟨id', he, h⟩
      rwa [← (hn id').1 h]
    rw [heard]
    by_cases hends : o.ends id = true
    · -- unsubscribed: nothing more comes
      have hgone : ∀ t, l ∉ (after (execute react o) s).attached t := fun t ht =>
        ((hf.attached t).1 ht).2 (hunsub.2 hends)
      rw [if_pos hends, hr.received_of_detached hs' hl' hgone, hf.received,
        Operation.eq_unsubscribe_of_ends hends]
      rfl
    · have hd' := (hf.attached topic).2 ⟨hd, fun h => hends (hunsub.1 h)⟩
      rw [if_neg hends]
      by_cases hreuses : o.reuses id = true
      · -- the identifier is lost: everything more comes
        have hlost : ∀ id', (after (execute react o) s).named? .subscription id' ≠ some l := by
          intro id' h
          obtain ⟨h, hr⟩ := (hf.named id').1 h
          rw [(hn id').1 h, hreuses] at hr
          cases hr
        rw [if_pos hreuses, hr.received_of_unnamed hs' hl' hd' hlost, hf.received,
          tells_of_mem hs hd, Operation.tidings?_of_reuses hreuses]
        rw [Option.toList_none, List.append_nil]
      · have hn' : ∀ id', (after (execute react o) s).named? .subscription id' = some l ↔
            id' = id := by
          intro id'
          rw [hf.named, hn]
          refine and_iff_left_of_imp ?_
          rintro rfl
          exact Bool.eq_false_iff.2 hreuses
        rw [if_neg hreuses, ih hs' hl' hd' hn', hf.received, tells_of_mem hs hd,
          List.append_assoc]

/-! ## Before the subscription -/

/-- **Flags and values stay as they are.** -/
def Still (s s' : Switchboard) : Prop :=
  s'.roster = s.roster ∧ ∀ topic, s'.value? topic = s.value? topic

theorem admits_still : Admits Still where
  trans h h' := ⟨h'.1.trans h.1, fun t => (h'.2 t).trans (h.2 t)⟩
  alike ha := ⟨ha.roster, ha.value?⟩
  deliver _ _ _ := ⟨rfl, fun _ => rfl⟩
  drop topic l s := ⟨rfl, fun t => value?_detach topic t l s⟩
  name _ _ _ _ := ⟨rfl, fun _ => rfl⟩

theorem kept_still : Kept quiet Still where
  admits := admits_still
  rewrite _ _ _ := ⟨rfl, fun _ => rfl⟩
  plain := False.elim
  operate _ ho := ho.elim

/-- **What an operation makes of the flags and of a topic's value.** -/
theorem Effect.standing {o : Operation} (hreact : Lawful quiet react) (h : Effect react s o s')
    (hs : Orderly s) (topic : Text) :
    (s'.roster, s'.value? topic) = standing topic (s.roster, s.value? topic) o := by
  have hkeeping := kept_still.lawful hreact
  cases h with
  | unnoticed hi h =>
    refine Prod.ext h.roster ?_
    rw [h.value?, FeatureFlags.standing, Operation.value?, hi.writing, hi.entrance, hi.ensures]
    rfl
  | @ensured _ t b _ ho h =>
    refine Prod.ext ?_ ?_
    · rw [h.roster, roster_ensure, FeatureFlags.standing, Operation.roster_of_ensures? ho]
    · rw [h.value?, value?_ensure, FeatureFlags.standing, Operation.value?_of_ensures? _ _ _ ho]
  | @refused _ e _ ho _ h =>
    refine Prod.ext ?_ ?_
    · rw [h.roster, roster_ensure, FeatureFlags.standing, Operation.roster_of_entrance? ho]
    · rw [h.value?, value?_ensure, FeatureFlags.standing, Operation.value?_of_entrance? _ _ _ ho]
      rfl
  | @shut _ l _ t _ _ _ _ _ h =>
    exact Prod.ext h.roster ((h.value? topic).trans (value?_detach t topic l _))
  | @unsubscribed _ l _ t _ _ _ _ h =>
    exact Prod.ext h.roster ((h.value? topic).trans (value?_detach t topic l s))
  | @writes _ w _ ho h =>
    have hfan := (proper_fanOut admits_still hkeeping w.value (s.attached w.topic) _
      ((hs.redefined o).written w)).2.2
    refine Prod.ext ?_ ?_
    · rw [h.roster, hfan.1]
      exact roster_ensure w.topic w.initial (s.redefined o)
    · rw [h.value?, hfan.2, value?_written, FeatureFlags.standing,
        Operation.value?_of_writing? _ _ _ ho]
      rfl
  | @enters _ e _ ho h =>
    have hhand := (proper_handed admits_still hkeeping ((s.entered e).value e.topic)
      s.listeners.length _ (hs.entered ho)).2.2
    refine Prod.ext ?_ ?_
    · rw [FeatureFlags.standing, Operation.roster_of_entrance? ho]
      exact h.roster.trans (hhand.1.trans (roster_ensure e.topic (s.first e) s))
    · rw [FeatureFlags.standing, Operation.value?_of_entrance? _ _ _ ho]
      exact (h.value? topic).trans ((hhand.2 topic).trans (value?_entered e topic s))

/-- **What a run makes of them.** -/
theorem Run.standing (hr : Run plain quiet s os s') (hs : Orderly s) (topic : Text) :
    Orderly s' ∧ (s'.roster, s'.value? topic)
      = os.foldl (FeatureFlags.standing topic) (s.roster, s.value? topic) := by
  induction hr with
  | done => exact ⟨hs, rfl⟩
  | unnoticed ha _ ih =>
    rw [← ha.roster, ← ha.value?]
    exact ih (hs.alike ha)
  | @operate s _ o _ react hreact ho _ ih =>
    have he := execute_effect react ho s
    obtain ⟨hs', -⟩ := he.orderly kept_quiet.admits (kept_quiet.lawful hreact) hs
    rw [List.foldl_cons, ← he.standing hreact hs topic]
    exact ih hs'

/-! ## The subscription -/

/-- The value a topic has when a callback subscribes. -/
def present (s : Switchboard) (topic : Text) (initial : Option Bool) : Bool :=
  (s.value? topic).getD (initial.getD (s.roster.isEnabled topic))

theorem received_eq_nil (hs : Orderly s) (hl : s.kind? l = none) : received l s.history = [] := by
  rw [received, List.filterMap_eq_nil_iff]
  intro e he
  cases e with
  | written => rfl
  | handed i value =>
    refine if_neg ?_
    rintro rfl
    have hk := hs.known he
    rw [hl] at hk
    cases hk

/-- **Subscribing**: the new callback is attached to its topic, has its identifier for itself, and
has received the present value and nothing else. -/
theorem Effect.subscribe_begins (hreact : Lawful quiet react) (hs : Orderly s)
    {initial : Option Bool} {script : Script}
    (h : Effect react s (.subscribe id topic initial script) s') :
    s'.IsCallback s.listeners.length ∧ s.listeners.length ∈ s'.attached topic ∧
      (∀ id', s'.named? .subscription id' = some s.listeners.length ↔ id' = id) ∧
      received s.listeners.length s'.history = [s.present topic initial] := by
  let e : Entrance := ⟨topic, initial, .callback id topic script, .subscription, id⟩
  have ha := h.alike_of_entrance (e := e) rfl rfl
  have hent : Orderly (s.entered e) := hs.entered (o := .subscribe id topic initial script) rfl
  have hhand := handed_handed react ((s.entered e).value topic) (l := s.listeners.length)
    hent.listener?_ordinary
  have hnew : (s.entered e).IsCallback s.listeners.length := ⟨_, kind?_entered_self e s, rfl⟩
  have ht := hhand.told hreact hnew
  obtain ⟨-, hg, -⟩ := hhand.proper kept_quiet.admits (kept_quiet.lawful hreact) hent
  refine ⟨(hnew.grows hg).grows (Grows.of_kind? fun i => ha.kind? i), ?_, fun id' => ?_, ?_⟩
  · rw [ha.attached]
    refine (ht.attached topic).2 ?_
    rw [attached_entered, if_pos rfl]
    exact List.mem_append_right _ List.mem_cons_self
  · rw [named?, ha.directory, ← named?, named?_name, named?, ht.directory, ← named?, named?_entered]
    by_cases hid : id' = id
    · rw [if_pos (congrArg _ hid)]
      exact ⟨fun _ => hid, fun _ => rfl⟩
    · rw [if_neg fun he => hid (Prod.ext_iff.1 he).2]
      exact ⟨fun hn => absurd rfl (IsCallback.ne_length (hs.subscription hn)),
        fun he => absurd he hid⟩
  · rw [ha.history]
    refine ht.received.trans ?_
    have hold : received s.listeners.length (s.entered e).history = [] := by
      refine (Told.ensure e.topic (s.first e) s).received.trans ?_
      rw [received_eq_nil hs (kind?_length s), List.append_nil]
    rw [hold, if_pos rfl, value_eq, value?_entered, if_pos rfl]
    rfl

theorem Run.received_of_subscribe (hs : Orderly s) (hreact : Lawful quiet react)
    {initial : Option Bool} {script : Script}
    (hr : Run plain quiet (after (execute react (.subscribe id topic initial script)) s) os s') :
    received s.listeners.length s'.history = s.present topic initial :: heard id topic os := by
  have he := execute_effect react (o := .subscribe id topic initial script) rfl s
  obtain ⟨hs', -⟩ := he.orderly kept_quiet.admits (kept_quiet.lawful hreact) hs
  obtain ⟨hl, hd, hn, hfirst⟩ := he.subscribe_begins hreact hs
  rw [hr.received_of_named hs' hl hd hn, hfirst]
  rfl

/-- **What a subscribed callback receives**, as long as callbacks do nothing but fail: the value of
its topic when it subscribes, and then what reaches it.  Any other run in which this value is the
same and the same operations concern the subscription gives it the same values; and the first value
is the same if the same operations concern the topic's value. -/
theorem received_of_subscription {roster : Roster} {before later : List Operation}
    (hb : Run plain quiet (ofRoster roster) before s) (hreact : Lawful quiet react)
    {initial : Option Bool} {script : Script}
    (hl : Run plain quiet (after (execute react (.subscribe id topic initial script)) s) later s') :
    received s.listeners.length s'.history = s.present topic initial :: heard id topic later ∧
      (∀ {roster₂ before₂ s₂ react₂ initial₂ script₂ later₂ s₂'},
        Run plain quiet (ofRoster roster₂) before₂ s₂ → Lawful quiet react₂ →
        Run plain quiet (after (execute react₂ (.subscribe id topic initial₂ script₂)) s₂)
          later₂ s₂' →
        s₂.present topic initial₂ = s.present topic initial →
        later₂.filter (·.reaches id topic) = later.filter (·.reaches id topic) →
        received s₂.listeners.length s₂'.history = received s.listeners.length s'.history) ∧
      ∀ {before₂ s₂}, Run plain quiet (ofRoster roster) before₂ s₂ →
        before₂.filter (·.shapes topic) = before.filter (·.shapes topic) →
        s₂.present topic initial = s.present topic initial := by
  have hstart := Orderly.ofRoster roster
  obtain ⟨hs, hstand⟩ := hb.standing hstart topic
  have hrec := hl.received_of_subscribe hs hreact
  refine ⟨hrec, ?_, ?_⟩
  · intro roster₂ before₂ s₂ react₂ initial₂ script₂ later₂ s₂' hb₂ hreact₂ hl₂ hpresent hlater
    obtain ⟨hs₂, -⟩ := hb₂.standing (Orderly.ofRoster roster₂) topic
    rw [hl₂.received_of_subscribe hs₂ hreact₂, hrec, hpresent, ← heard_filter id topic later₂,
      hlater, heard_filter]
  · intro before₂ s₂ hb₂ hbefore
    obtain ⟨-, hstand₂⟩ := hb₂.standing hstart topic
    rw [← foldl_standing_filter, hbefore, foldl_standing_filter, ← hstand, Prod.mk.injEq]
      at hstand₂
    rw [present, hstand₂.1, hstand₂.2, present]

/-- A callback that fails at once, among publications of two topics and another subscription. -/
theorem received_of_subscription_failing :
    let fails : React := fun _ _ => throw .callbackFailed
    let s := after (execute fails (.publish "g" true)) (ofRoster [])
    let s₁ := after (execute fails (.subscribe "a" "f" (some false) [])) s
    let s₂ := after (execute fails (.subscribe "b" "f" (some true) [])) s₁
    let s₃ := after (execute fails (.publish "f" true)) s₂
    let s₄ := after (execute fails (.publish "g" false)) s₃
    let s₅ := after (execute fails (.unsubscribe "a")) s₄
    let s₆ := after (execute fails (.publish "f" false)) s₅
    received 0 s₆.history = [false, true] := by
  intro fails s s₁ s₂ s₃ s₄ s₅ s₆
  have hfails : Lawful quiet fails := lawful_throw .callbackFailed
  have hb : Run plain quiet (ofRoster []) [.publish "g" true] s :=
    .operate fails hfails rfl (.done s)
  have hl : Run plain quiet s₁ [.subscribe "b" "f" (some true) [], .publish "f" true,
      .publish "g" false, .unsubscribe "a", .publish "f" false] s₆ :=
    .operate fails hfails rfl (.operate fails hfails rfl (.operate fails hfails rfl
      (.operate fails hfails rfl (.operate fails hfails rfl (.done s₆)))))
  refine (received_of_subscription hb hfails hl).1.trans ?_
  decide +kernel

end Switchboard

end FeatureFlags

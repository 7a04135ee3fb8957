import FeatureFlags.Proofs.Switchboard.Elementary
import FeatureFlags.Proofs.Switchboard.Passing

/-!
# Proofs/Switchboard/Pruning — inboxes whose loop is closed are taken out while a value goes round

An inbox whose event loop is closed is stranded: it closes when it is handed a value, and is
detached on the spot, while the value is going round in the very list it is taken from:

    attached       a   b×  c   d×  e          (× stranded)
    after two      a       c   d×  e          a was handed the value, b is closed
    after all      a       c       e          c and e were handed it, d is closed

The value goes round in the list as it was at first, so nobody is left out.  What comes of each
listener does not depend on the others (`Round`), and what is detached is taken from the list at the
end as well as on the way (`List.diff`), which makes it a filter.

An inbox that is stranded from the beginning is attached, handed the present value and detached
again before anybody sees it.
-/

namespace FeatureFlags

namespace Listener

/-- The values that are handed to an inbox come by way of its loop if that is running. -/
def isServed : Listener → Bool
  | .inbox _ .running _ _ => true
  | _ => false

/-- **A listener that was handed a value**: a reader has it unread, who is stranded is closed. -/
def handed (value : Bool) : Listener → Listener
  | .reader topic unread closed => (reader topic unread closed).store value
  | .inbox topic .closed unread _ => .inbox topic .closed unread true
  | x => x

/-- A listener apart from its script. -/
def unscripted (x : Listener) : Listener := x.withScript []

/-- **A listener attends to a topic**: it listens to it or is a recorder, and it is open if it is a
reader. -/
def attends (topic : Text) : Listener → Bool
  | .callback _ t _ => t = topic
  | .recorder _ _ => true
  | .reader t _ closed => t = topic && !closed
  | .inbox t _ _ _ => t = topic

section

variable (value : Bool) (topic : Text) (x : Listener)

theorem handed_handed : (x.handed value).handed value = x.handed value := by
  rcases x with _ | _ | ⟨_, _, _ | _⟩ | ⟨_, _ | _ | _, _, _⟩ <;> rfl

theorem unscripted_handed : (x.handed value).unscripted = x.unscripted.handed value := by
  rcases x with _ | _ | ⟨_, _, _ | _⟩ | ⟨_, _ | _ | _, _, _⟩ <;> rfl

theorem isStranded_handed : (x.handed value).isStranded = x.isStranded := by
  rcases x with _ | _ | ⟨_, _, _ | _⟩ | ⟨_, _ | _ | _, _, _⟩ <;> rfl

theorem isServed_handed : (x.handed value).isServed = x.isServed := by
  rcases x with _ | _ | ⟨_, _, _ | _⟩ | ⟨_, _ | _ | _, _, _⟩ <;> rfl

theorem isRecorder_handed : (x.handed value).isRecorder = x.isRecorder := by
  rcases x with _ | _ | ⟨_, _, _ | _⟩ | ⟨_, _ | _ | _, _, _⟩ <;> rfl

theorem attends_handed : (x.handed value).attends topic = x.attends topic := by
  rcases x with _ | _ | ⟨_, _, _ | _⟩ | ⟨_, _ | _ | _, _, _⟩ <;> rfl

/-- **Who is stranded is closed** by a value, and nobody else. -/
theorem closed_handed : (x.handed value).closed = (x.closed || x.isStranded) := by
  rcases x with _ | _ | ⟨_, _, _ | _⟩ | ⟨_, _ | _ | _, _, _ | _⟩ <;> rfl

theorem isStranded_unscripted : x.unscripted.isStranded = x.isStranded := by cases x <;> rfl

theorem isServed_unscripted : x.unscripted.isServed = x.isServed := by cases x <;> rfl

theorem isRecorder_unscripted : x.unscripted.isRecorder = x.isRecorder := by cases x <;> rfl

theorem attends_unscripted : x.unscripted.attends topic = x.attends topic := by cases x <;> rfl

theorem closed_unscripted : x.unscripted.closed = x.closed := by cases x <;> rfl

end

end Listener

namespace Switchboard

variable {react : React} {s s' s'' : Switchboard} {topic : Text} {l i : ListenerId} {value : Bool}
  {ls ls' : List ListenerId}

/-- Whether a listener is stranded. -/
def stranded (s : Switchboard) (l : ListenerId) : Bool := (s.listener? l).any Listener.isStranded

/-- Whether values come to a listener by way of a running loop. -/
def served (s : Switchboard) (l : ListenerId) : Bool := (s.listener? l).any Listener.isServed

/-- Whether a listener attends to a topic. -/
def attends (s : Switchboard) (topic : Text) (l : ListenerId) : Bool :=
  (s.listener? l).any (·.attends topic)

/-- A listener apart from its script. -/
def unscripted? (s : Switchboard) (l : ListenerId) : Option Listener :=
  (s.listener? l).map Listener.unscripted

/-- What does not depend on scripts. -/
theorem any_listener? {p : Listener → Bool} (hp : ∀ x, p x.unscripted = p x) (s : Switchboard)
    (l : ListenerId) : (s.listener? l).any p = (s.unscripted? l).any p := by
  rw [unscripted?, Option.any_map]
  congr 1
  funext x
  exact (hp x).symm

/-! ## A value goes round -/

/-- **A value goes round in a list**: it is handed to everybody in it who is not stranded, and the
stranded ones are closed and taken from the topic. -/
structure Round (topic : Text) (value : Bool) (ls : List ListenerId) (s s' : Switchboard) :
    Prop where
  history : s'.history = s.history ++ (ls.filter fun l => !s.stranded l).map (.handed · value)
  attached : ∀ t, s'.attached t
    = if t = topic then (s.attached t).diff (ls.filter s.stranded) else s.attached t
  listener : ∀ i, s'.unscripted? i
    = (s.unscripted? i).map fun x => if i ∈ ls then x.handed value else x
  coming : ∀ i, s'.coming i
    = s.coming i ++ List.replicate (if s.served i then ls.count i else 0) value
  value? : ∀ t, s'.value? t = s.value? t
  directory : s'.directory = s.directory

namespace Round

/-- What is the same but for scripts, records and turns. -/
theorem of_same (hhistory : s'.history = s.history) (hsignals : s'.signals = s.signals)
    (hdirectory : s'.directory = s.directory) (hcoming : ∀ i, s'.coming i = s.coming i)
    (hlistener : ∀ i, s'.unscripted? i = s.unscripted? i) : Round topic value [] s s' where
  history := by rw [hhistory, List.filter_nil, List.map_nil, List.append_nil]
  attached t := by
    rw [Switchboard.attached, Switchboard.signal?, hsignals, ← Switchboard.signal?,
      ← Switchboard.attached, List.filter_nil, List.diff_nil, ite_self]
  listener i := by
    rw [hlistener]
    simp
  coming i := by
    rw [hcoming, List.count_nil, ite_self, List.replicate_zero, List.append_nil]
  value? t := by
    rw [Switchboard.value?, Switchboard.signal?, hsignals, ← Switchboard.signal?,
      ← Switchboard.value?]
  directory := hdirectory

theorem refl (s : Switchboard) : Round topic value [] s s :=
  .of_same rfl rfl rfl (fun _ => rfl) fun _ => rfl

/-- What a value changes of no listener. -/
theorem any_eq (h : Round topic value ls s s') {p : Listener → Bool}
    (hp : ∀ x, p x.unscripted = p x) (hv : ∀ x, p (x.handed value) = p x) (i : ListenerId) :
    (s'.listener? i).any p = (s.listener? i).any p := by
  rw [any_listener? hp, h.listener, Option.any_map, any_listener? hp]
  congr 1
  funext x
  split
  · exact hv x
  · rfl

theorem stranded_eq (h : Round topic value ls s s') (i : ListenerId) :
    s'.stranded i = s.stranded i :=
  h.any_eq Listener.isStranded_unscripted (Listener.isStranded_handed value) i

theorem served_eq (h : Round topic value ls s s') (i : ListenerId) : s'.served i = s.served i :=
  h.any_eq Listener.isServed_unscripted (Listener.isServed_handed value) i

theorem attends_eq (h : Round topic value ls s s') (t : Text) (i : ListenerId) :
    s'.attends t i = s.attends t i :=
  h.any_eq (Listener.attends_unscripted t) (Listener.attends_handed value t) i

/-- **One round after the other** is one round. -/
theorem trans (h : Round topic value ls s s') (h' : Round topic value ls' s' s'') :
    Round topic value (ls ++ ls') s s'' where
  history := by
    rw [h'.history, h.history, List.filter_append, List.map_append, List.append_assoc]
    simp only [h.stranded_eq]
  attached t := by
    have hstranded : s'.stranded = s.stranded := funext h.stranded_eq
    rw [h'.attached, h.attached, hstranded, List.filter_append, List.diff_append]
    by_cases ht : t = topic
    · rw [if_pos ht, if_pos ht, if_pos ht]
    · rw [if_neg ht, if_neg ht, if_neg ht]
  listener i := by
    rw [h'.listener, h.listener, Option.map_map]
    congr 1
    funext x
    rw [Function.comp_apply]
    by_cases hi : i ∈ ls
    · by_cases hi' : i ∈ ls'
      · rw [if_pos hi', if_pos hi, if_pos (List.mem_append_left ls' hi), x.handed_handed]
      · rw [if_neg hi', if_pos hi, if_pos (List.mem_append_left ls' hi)]
    · by_cases hi' : i ∈ ls'
      · rw [if_pos hi', if_neg hi, if_pos (List.mem_append_right ls hi')]
      · rw [if_neg hi', if_neg hi, if_neg (List.mem_append.not.2 (not_or.2 ⟨hi, hi'⟩))]
  coming i := by
    rw [h'.coming, h.coming, h.served_eq, List.append_assoc, List.replicate_append_replicate,
      List.count_append]
    by_cases hi : s.served i = true
    · rw [if_pos hi, if_pos hi, if_pos hi]
    · rw [if_neg hi, if_neg hi, if_neg hi]
  value? t := (h'.value? t).trans (h.value? t)
  directory := h'.directory.trans h.directory

end Round

/-! ## Handing to one listener -/

/-- Callbacks that do not act rewrite scripts at most. -/
theorem Conduct.round (h : Conduct quiet s s') : Round topic value [] s s' := by
  induction h with
  | done s => exact .refl s
  | @rewrite s _ l f _ ih =>
    have hlistener (i : ListenerId) : (s.rewritten l f).unscripted? i = s.unscripted? i := by
      rw [unscripted?, rewritten, listener?_modifyListener, unscripted?]
      split
      · rw [Option.map_map]
        congr 1
        funext x
        cases x <;> rfl
      · rfl
    have hround : Round topic value [] s (s.rewritten l f) :=
      .of_same rfl rfl rfl (fun _ => rfl) hlistener
    exact hround.trans ih
  | perform _ _ ho => exact ho.elim

/-- **A recorder that does not fail**, whatever it is handed; there is nothing to ask of others. -/
def Steady (react : React) (s : Switchboard) (l : ListenerId) : Prop :=
  (s.listener? l).any Listener.isRecorder = true →
    ∀ value s', ∃ s'', (react l value).run s' = (.ok (), s'')

/-- What is handed to a listener that is not stranded. -/
theorem Round.of_handed {x : Listener} (hx : s.listener? l = some x) (hs : x.isStranded = false)
    (hhistory : s'.history = s.history ++ [.handed l value]) (hsignals : s'.signals = s.signals)
    (hdirectory : s'.directory = s.directory)
    (hcoming : ∀ i, s'.coming i = s.coming i ++ if l = i ∧ x.isServed = true then [value] else [])
    (hlistener : ∀ i, s'.listener? i
      = if i = l then (s.listener? i).map (·.handed value) else s.listener? i) :
    Round topic value [l] s s' where
  history := by
    have hstranded : s.stranded l = false := by rw [stranded, hx, Option.any_some, hs]
    rw [hhistory, List.filter_singleton, hstranded]
    rfl
  attached t := by
    have hstranded : s.stranded l = false := by rw [stranded, hx, Option.any_some, hs]
    rw [Switchboard.attached, Switchboard.signal?, hsignals, ← Switchboard.signal?,
      ← Switchboard.attached, List.filter_singleton, hstranded]
    simp
  listener i := by
    rw [unscripted?, hlistener, unscripted?]
    by_cases hi : i = l
    · subst hi
      simp [Function.comp_def, Listener.unscripted_handed]
    · simp [hi, Function.comp_def]
  coming i := by
    rw [hcoming]
    by_cases hi : l = i
    · subst hi
      cases hserved : x.isServed <;> simp [served, hx, hserved]
    · simp [hi]
  value? t := by
    rw [Switchboard.value?, Switchboard.signal?, hsignals, ← Switchboard.signal?,
      ← Switchboard.value?]
  directory := hdirectory

/-- A listener without an own place for values is handed one. -/
theorem Round.delivered {x : Listener} (hx : s.listener? l = some x) (hs : x.isStranded = false)
    (hserved : x.isServed = false) (hsame : x.handed value = x) :
    Round topic value [l] s (s.deliver l value) := by
  refine .of_handed hx hs rfl rfl rfl (fun i => ?_) fun i => ?_
  · rw [hserved, if_neg (fun h => nomatch h.2), List.append_nil]
    rfl
  · change s.listener? i = _
    by_cases hi : i = l
    · subst hi
      rw [if_pos rfl, hx, Option.map_some, hsame]
    · rw [if_neg hi]

/-- **A stranded inbox** is closed and detached. -/
theorem Round.dropped {unread : Option Bool} {closed : Bool} {message : Text}
    (hx : s.listener? l = some (.inbox topic .closed unread closed)) :
    Round topic value [l] s
      (((s.record .debug message).modifyListener l (·.close)).detach topic l) where
  history := by
    have hstranded : s.stranded l = true := by rw [stranded, hx]; rfl
    rw [List.filter_singleton, hstranded]
    exact (List.append_nil _).symm
  attached t := by
    have hstranded : s.stranded l = true := by rw [stranded, hx]; rfl
    rw [attached_detach, List.filter_singleton, hstranded, cond_true, List.diff_cons,
      List.diff_nil]
    rfl
  listener i := by
    change ((s.modifyListener l (·.close)).listener? i).map Listener.unscripted = _
    rw [listener?_modifyListener, unscripted?]
    by_cases hi : i = l
    · subst hi
      rw [if_pos rfl, hx]
      simp [Listener.unscripted, Listener.withScript, Listener.close, Listener.handed]
    · simp [hi, Function.comp_def]
  coming i := by
    by_cases hi : l = i
    · subst hi
      have hserved : s.served l = false := by rw [served, hx]; rfl
      rw [hserved, if_neg Bool.false_ne_true, List.replicate_zero, List.append_nil]
      rfl
    · rw [List.count_eq_zero_of_not_mem (by simpa using Ne.symm hi), ite_self,
        List.replicate_zero, List.append_nil]
      rfl
  value? t := value?_detach topic t l _
  directory := rfl

/-- **A listener that attends is handed a value**, and this does not fail. -/
theorem exists_round_hand (hreact : Lawful quiet react) (hl : s.attends topic l = true)
    (hsteady : Steady react s l) (value : Bool) :
    ∃ s', (hand react value l).run s = (.ok (), s') ∧ Round topic value [l] s s' := by
  obtain ⟨x, hx, hattends⟩ := (Option.any_eq_true _ _).1 hl
  have hcall (hs : x.isStranded = false) (hserved : x.isServed = false)
      (hsame : x.handed value = x) :
      Round topic value [l] s (after (react l value) (s.deliver l value)) :=
    (Round.delivered hx hs hserved hsame).trans (hreact l value _).round
  simp only [hand, getListener, run_bind, run_get, run_pure, hx]
  cases x with
  | recorder label script =>
    obtain ⟨s', hs'⟩ := hsteady (by rw [hx]; rfl) value (s.deliver l value)
    have hround := hcall rfl rfl rfl
    rw [after, hs'] at hround
    exact ⟨s', hs', hround⟩
  | callback label t script =>
    have hround := hcall rfl rfl rfl
    simp only [run_bind, run_modify, run_tryCatch]
    rw [after] at hround
    cases hr : (react l value).run (s.deliver l value) with
    | mk r s₁ =>
      rw [hr] at hround
      cases r with
      | ok => exact ⟨s₁, rfl, hround⟩
      | error => exact ⟨_, rfl, hround.trans (.of_same rfl rfl rfl (fun _ => rfl) fun _ => rfl)⟩
  | reader t unread closed =>
    obtain ⟨-, hopen⟩ := Bool.and_eq_true_iff.1 hattends
    obtain rfl : closed = false := by simpa using hopen
    refine ⟨_, rfl, .of_handed hx rfl rfl rfl rfl (fun i => ?_) fun i => ?_⟩
    · rw [if_neg fun h => Bool.false_ne_true h.2, List.append_nil]
      exact coming_wake l i _
    · change ((s.deliver l value).modifyListener l (·.store value)).listener? i = _
      rw [listener?_modifyListener]
      by_cases hi : i = l
      · subst hi
        rw [if_pos rfl, if_pos rfl, hx]
        exact congrArg _ hx
      · rw [if_neg hi, if_neg hi]
        rfl
  | inbox t loop unread closed =>
    obtain rfl : t = topic := of_decide_eq_true hattends
    cases loop with
    | running =>
      refine ⟨_, rfl, .of_handed hx rfl rfl rfl rfl (fun i => ?_) fun i => ?_⟩
      · simp only [Listener.isServed, and_true]
        exact coming_enqueue l i value _
      · change s.listener? i = _
        by_cases hi : i = l
        · subst hi
          rw [if_pos rfl, hx]
          rfl
        · rw [if_neg hi]
    | idle => exact ⟨_, rfl, .delivered hx rfl rfl rfl⟩
    | closed => exact ⟨_, rfl, .dropped hx⟩

/-! ## Handing to everybody -/

/-- **A value goes round without failing** in a list of listeners that attend. -/
theorem exists_round (hreact : Lawful quiet react) (hattends : ∀ l ∈ ls, s.attends topic l = true)
    (hsteady : ∀ l ∈ ls, Steady react s l) (value : Bool) :
    ∃ s', (ls.forM (hand react value)).run s = (.ok (), s') ∧ Round topic value ls s s' := by
  induction ls generalizing s with
  | nil => exact ⟨s, rfl, .refl s⟩
  | cons l ls ih =>
    obtain ⟨hl, hls⟩ := List.forall_mem_cons.1 hattends
    obtain ⟨hlsteady, hlssteady⟩ := List.forall_mem_cons.1 hsteady
    obtain ⟨s₁, hrun, hround⟩ := exists_round_hand hreact hl hlsteady value
    have hsteady' (i : ListenerId) (hi : i ∈ ls) : Steady react s₁ i := fun hr =>
      hlssteady i hi ((hround.any_eq Listener.isRecorder_unscripted
        (Listener.isRecorder_handed value) i).symm.trans hr)
    obtain ⟨s', hrun', hround'⟩ :=
      ih (fun i hi => (hround.attends_eq topic i).trans (hls i hi)) hsteady'
    refine ⟨s', ?_, hround.trans hround'⟩
    change (hand react value l >>= fun _ => ls.forM (hand react value)).run s = _
    rw [run_bind, hrun]
    exact hrun'

/-- Taking from a list all of its members of a kind leaves the others. -/
theorem diff_filter (p : ListenerId → Bool) (ls : List ListenerId) :
    ls.diff (ls.filter p) = ls.filter fun l => !p l := by
  induction ls with
  | nil => rfl
  | cons l ls ih =>
    cases hp : p l with
    | true => rw [List.filter_cons_of_pos hp, List.diff_cons, List.erase_cons_head, ih,
        List.filter_cons_of_neg (by simp [hp])]
    | false =>
      have hl : l ∉ ls.filter p := fun h => by
        rw [(List.mem_filter.1 h).2] at hp
        cases hp
      rw [List.filter_cons_of_neg (by simp [hp]), List.cons_diff, if_neg hl, ih,
        List.filter_cons_of_pos (by simp [hp])]

/-! ## What comes of it -/

/-- **Stranded inboxes are pruned** when a topic is set, and nobody else notices: everybody else
attached is handed the value, once for each time it is attached and in that order; exactly those who
are stranded are closed, and exactly they are missing from the list. -/
structure Pruned (topic : Text) (value : Bool) (s s' : Switchboard) : Prop where
  value? : s'.value? topic = some value
  history : s'.history = (s.ensure topic false).history ++ .written topic value (s.attached topic) ::
    ((s.attached topic).filter fun l => !s.stranded l).map (.handed · value)
  attached : s'.attached topic = (s.attached topic).filter fun l => !s.stranded l
  elsewhere : ∀ t, t ≠ topic → s'.attached t = s.attached t ∧ s'.value? t = s.value? t
  shut : ∀ l, s'.isShut l = true ↔
    s.isShut l = true ∨ l ∈ s.attached topic ∧ s.stranded l = true
  listener : ∀ l, s'.unscripted? l = (s.unscripted? l).map fun x =>
    if l ∈ s.attached topic then x.handed value else x
  coming : ∀ l, s'.coming l = s.coming l ++
    List.replicate (if s.served l then (s.attached topic).count l else 0) value
  directory : s'.directory = s.directory

/-- **An inbox that is stranded from the beginning** is there and has its identifier, but is closed
and attached nowhere; nobody receives anything, and all the others are as they were. -/
structure Stillborn (id topic : Text) (s s' : Switchboard) : Prop where
  named : s'.named? .observation id = some s.listeners.length
  listener : s'.listener? s.listeners.length = some (.inbox topic .closed none true)
  others : ∀ l < s.listeners.length, s'.listener? l = s.listener? l
  attached : ∀ t, s'.attached t = s.attached t
  received : ∀ l, received l s'.history = received l s.history
  queue : s'.queue = s.queue

theorem Round.isShut_iff (h : Round topic value ls s s') (l : ListenerId) :
    s'.isShut l = true ↔ s.isShut l = true ∨ l ∈ ls ∧ s.stranded l = true := by
  rw [isShut, any_listener? Listener.closed_unscripted, h.listener, Option.any_map, isShut,
    any_listener? Listener.closed_unscripted, stranded, any_listener? Listener.isStranded_unscripted]
  cases s.unscripted? l with
  | none => simp
  | some x =>
    by_cases hl : l ∈ ls
    · simp [hl, x.closed_handed value]
    · simp [hl]

/-- A topic that is set, before its value goes round. -/
theorem Round.pruned (h : Round topic value (s.attached topic) (s.written ⟨topic, false, value⟩) s') :
    Pruned topic value s s' := by
  have hlistener (l : ListenerId) :
      (s.written ⟨topic, false, value⟩).listener? l = s.listener? l :=
    congrArg (·[l]?) (listeners_ensure topic false s)
  have hattached (t : Text) : (s.written ⟨topic, false, value⟩).attached t = s.attached t := by
    rw [written, attached_write, attached_ensure]
  have hstranded : (s.written ⟨topic, false, value⟩).stranded = s.stranded := by
    funext l
    rw [stranded, hlistener, stranded]
  have hvalue (t : Text) := value?_written ⟨topic, false, value⟩ t s
  refine ⟨?_, ?_, ?_, fun t ht => ⟨?_, ?_⟩, fun l => ?_, fun l => ?_, fun l => ?_, ?_⟩
  · rw [h.value?, hvalue, if_pos rfl]
  · rw [h.history, hstranded, written, write, attached_ensure, List.append_assoc]
    rfl
  · rw [h.attached, if_pos rfl, hattached, hstranded, diff_filter]
  · rw [h.attached, if_neg ht, hattached]
  · rw [h.value?, hvalue, if_neg ht]
  · rw [h.isShut_iff, hstranded, isShut, hlistener, isShut]
  · rw [h.listener, unscripted?, hlistener, unscripted?]
  · have hcoming : (s.written ⟨topic, false, value⟩).coming l = s.coming l :=
      congrArg (List.filterMap (Job.valueFor l)) (queue_ensure topic false s)
    rw [h.coming, hcoming, served, hlistener, served]
  · rw [h.directory]
    exact directory_ensure topic false s

/-- A stranded inbox that enters is closed and detached before anything else happens. -/
theorem run_observeAsync_closed (react : React) (id topic : Text) (initial : Option Bool)
    (s : Switchboard) : ∃ message,
    (execute react (.observeAsync id topic initial .closed)).run s = (.ok .nothing,
      ((((s.entered ⟨topic, initial, .inbox topic .closed none false, .observation, id⟩).record
        .debug message).modifyListener s.listeners.length (·.close)).detach topic
          s.listeners.length).name .observation id s.listeners.length) := by
  let e : Entrance := ⟨topic, initial, .inbox topic .closed none false, .observation, id⟩
  have hlistener : (s.entered e).listener? s.listeners.length =
      some (.inbox topic .closed none false) := by
    rw [listener?, listeners_entered, List.getElem?_concat_length]
  have hhanded (value : Bool) : handed react value s.listeners.length (s.entered e) =
      (((s.entered e).record .debug
        ("Event loop closed, detaching observer of " ++ Record.named topic)).modifyListener
          s.listeners.length (·.close)).detach topic s.listeners.length := by
    simp only [handed, hand, getListener, bind_assoc, pure_bind, after_get_bind, hlistener]
    rfl
  refine ⟨"Event loop closed, detaching observer of " ++ Record.named topic, ?_⟩
  rw [← hhanded ((s.entered e).value topic)]
  have hloop : ¬ (Loop.closed = Loop.running ∧
      (s.ensure topic (initial.getD (s.roster.isEnabled topic))).onWorker = true) :=
    fun h => Loop.noConfusion h.1
  simp only [execute, observeAsync, enterAsync, initialValue, run_bind, run_get, run_modify,
    run_pure, if_neg hloop]
  rw [run_enter react rfl, listeners_ensure]
  rfl

/-- Who attends is there. -/
theorem lt_of_attends (h : s.attends topic l = true) : l < s.listeners.length := by
  obtain ⟨x, hx, -⟩ := (Option.any_eq_true _ _).1 h
  exact (List.getElem?_eq_some_iff.1 hx).1

/-- **An inbox made on a closed loop** is stillborn, and nothing fails. -/
theorem exists_stillborn (react : React) (hattends : ∀ l ∈ s.attached topic, s.attends topic l = true)
    (id : Text) (initial : Option Bool) :
    ∃ s', (execute react (.observeAsync id topic initial .closed)).run s = (.ok .nothing, s') ∧
      Stillborn id topic s s' := by
  obtain ⟨message, hrun⟩ := run_observeAsync_closed react id topic initial s
  refine ⟨_, hrun, ?_, ?_, fun l hl => ?_, fun t => ?_, fun l => ?_, ?_⟩
  · rw [named?_name, if_pos rfl]
  · change ((s.entered _).modifyListener s.listeners.length (·.close)).listener? _ = _
    rw [listener?_modifyListener, if_pos rfl, listener?, listeners_entered,
      List.getElem?_concat_length]
    rfl
  · change ((s.entered _).modifyListener s.listeners.length (·.close)).listener? l = _
    rw [listener?_modifyListener, if_neg (Nat.ne_of_lt hl), listener?, listeners_entered,
      List.getElem?_append_left hl]
    rfl
  · change ((s.entered _).detach topic s.listeners.length).attached t = _
    rw [attached_detach, attached_entered]
    by_cases ht : t = topic
    · have hnew : s.listeners.length ∉ s.attached t := fun h =>
        Nat.lt_irrefl _ (lt_of_attends (hattends _ (ht ▸ h)))
      rw [if_pos ht, if_pos ht, List.erase_append_right _ hnew, List.erase_cons_head,
        List.append_nil]
    · rw [if_neg ht, if_neg ht]
  · exact received_ensure topic _ s
  · exact queue_ensure topic _ s

/-! ## Where everybody attends -/

/-- **In an orderly switchboard** everybody attached to a topic attends to it. -/
theorem Orderly.attends (hs : Orderly s) (hl : l ∈ s.attached topic) :
    s.attends topic l = true := by
  obtain ⟨y, hy, ht, hc⟩ := hs.member hl
  obtain ⟨x, hx, rfl⟩ := Option.map_eq_some_iff.1 hy
  rw [Listener.topic?_bare] at ht
  rw [Listener.closed_bare] at hc
  rw [Switchboard.attends, hx, Option.any_some]
  cases x with
  | callback | inbox => exact decide_eq_true (Option.some.inj ht)
  | recorder => rfl
  | reader t unread closed =>
    obtain rfl : closed = false := hc
    exact Bool.and_eq_true_iff.2 ⟨decide_eq_true (Option.some.inj ht), rfl⟩

/-- There are no recorders in it. -/
theorem Orderly.steady (hs : Orderly s) (react : React) (l : ListenerId) : Steady react s l := by
  intro hr
  obtain ⟨x, hx, hr⟩ := (Option.any_eq_true _ _).1 hr
  rw [hs.listener?_ordinary x hx] at hr
  cases hr

/-! ## Setting a topic with stranded inboxes -/

/-- **Pruning disturbs nobody.**  Where everybody attached to a topic attends to it, callbacks do
not act and recorders do not fail, setting the topic does not fail and prunes the stranded inboxes,
however many there are and wherever they stand; and an inbox made on a closed loop is stillborn,
without failing either. -/
theorem pruning_disturbs_nobody (hreact : Lawful quiet react)
    (hattends : ∀ l ∈ s.attached topic, s.attends topic l = true)
    (hsteady : ∀ l ∈ s.attached topic, Steady react s l) (value : Bool) :
    (∃ s', (execute react (.set topic value)).run s = (.ok .nothing, s') ∧
      Pruned topic value s s') ∧
    ∀ id initial, ∃ s', (execute react (.observeAsync id topic initial .closed)).run s =
      (.ok .nothing, s') ∧ Stillborn id topic s s' := by
  refine ⟨?_, exists_stillborn react hattends⟩
  have hlistener (l : ListenerId) :
      (s.written ⟨topic, false, value⟩).listener? l = s.listener? l :=
    congrArg (·[l]?) (listeners_ensure topic false s)
  obtain ⟨s', hrun, hround⟩ := exists_round (s := s.written ⟨topic, false, value⟩) hreact
    (fun l hl => by rw [attends, hlistener]; exact hattends l hl)
    (fun l hl hr => hsteady l hl (by rwa [hlistener] at hr)) value
  refine ⟨s', ?_, hround.pruned⟩
  rw [execute, run_bind, run_set, hrun]
  rfl

/-- A topic with two inboxes, a callback and a reader.  The loops of the inboxes were closed after
they had been attached. -/
def adrift : Switchboard :=
  [.observeAsync "a" "f" none .running, .subscribe "b" "f" none [],
    .observeAsync "c" "f" none .running, .observe "d" "f" none, .closeLoop "a",
    .closeLoop "c"].foldl (fun s o => after (execute (fun _ _ => pure ()) o) s) (ofRoster [])

theorem reachable_adrift : Reachable plain adrift :=
  ((((((reachable_ofRoster []).operate lawful_idle rfl).operate lawful_idle rfl).operate lawful_idle
    rfl).operate lawful_idle rfl).operate lawful_idle rfl).operate lawful_idle rfl

/-- The inboxes are taken out, the callback fails, and the reader behind them all still has its
value; another inbox on the closed loop does not get in. -/
theorem pruning_disturbs_nobody_adrift :
    adrift.attached "f" = [0, 1, 2, 3] ∧ (∃ s',
      (execute (fun _ _ => throw .callbackFailed) (.set "f" true)).run adrift = (.ok .nothing, s') ∧
      s'.attached "f" = [1, 3] ∧ s'.isShut 0 = true ∧ s'.isShut 2 = true ∧
      received 1 s'.history = [false, true] ∧ received 3 s'.history = [false, true]) ∧
    ∃ s', (execute (fun _ _ => throw .callbackFailed) (.observeAsync "e" "f" none .closed)).run
      adrift = (.ok .nothing, s') ∧ s'.isShut 4 = true ∧ s'.attached "f" = [0, 1, 2, 3] := by
  have hlist : adrift.attached "f" = [0, 1, 2, 3] := by decide +kernel
  have horderly := reachable_adrift.orderly
  have hattends : ∀ l ∈ adrift.attached "f", adrift.attends "f" l = true :=
    fun l hl => horderly.attends hl
  obtain ⟨⟨s', hrun, hpruned⟩, hnew⟩ := pruning_disturbs_nobody (lawful_throw .callbackFailed)
    hattends (fun l _ => horderly.steady _ l) true
  refine ⟨hlist, ⟨s', hrun, ?_, (hpruned.shut 0).2 (.inr ?_), (hpruned.shut 2).2 (.inr ?_), ?_, ?_⟩,
    ?_⟩
  · rw [hpruned.attached]
    decide +kernel
  · decide +kernel
  · decide +kernel
  · rw [hpruned.history]
    decide +kernel
  · rw [hpruned.history]
    decide +kernel
  · obtain ⟨s'', hrun', hstill⟩ := hnew "e" none
    refine ⟨s'', hrun', ?_, (hstill.attached "f").trans hlist⟩
    have hlength : adrift.listeners.length = 4 := by decide +kernel
    have hlistener := hstill.listener
    rw [hlength] at hlistener
    rw [isShut, hlistener]
    rfl

end Switchboard

end FeatureFlags

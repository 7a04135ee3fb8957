import FeatureFlags.Proofs.Switchboard.Flags
import FeatureFlags.Proofs.Switchboard.Quiet

/-!
# Proofs/Switchboard/Lasting — who is sure to be handed what is published

The history is only continued, who is there stays, and who is not available any more never is again
(`Lasts`).  So when publishing has come to its end, everybody who was attached and is still available
has been handed the value (`hands_publish`), whatever callbacks did meanwhile and whatever value the
topic had before.  If callbacks do nothing but fail, each of them was handed it once for every time it
is attached, and nothing else has changed for it (`informed_publish`).
-/

namespace FeatureFlags

namespace Switchboard

variable {react : React} {s s' s'' : Switchboard} {l i : ListenerId} {value : Bool}

/-- **Somebody is available.** -/
def Available (s : Switchboard) (l : ListenerId) : Prop :=
  ∃ x, s.listener? l = some x ∧ x.isAvailable

/-- **What lasts**: the history is continued, who is there stays, and who is available was so
before. -/
structure Lasts (s s' : Switchboard) : Prop where
  history : s.history <+: s'.history
  listener {l : ListenerId} {x : Listener} (h : s.listener? l = some x) :
    ∃ x', s'.listener? l = some x' ∧ (x'.isAvailable → x.isAvailable)

namespace Lasts

theorem trans (h : Lasts s s') (h' : Lasts s' s'') : Lasts s s'' := by
  refine ⟨h.history.trans h'.history, fun hx => ?_⟩
  obtain ⟨x', hx', hback⟩ := h.listener hx
  obtain ⟨x'', hx'', hback'⟩ := h'.listener hx'
  exact ⟨x'', hx'', fun ha => hback (hback' ha)⟩

instance : Std.Refl Lasts := ⟨fun _ => ⟨List.prefix_rfl, fun hx => ⟨_, hx, id⟩⟩⟩

instance : Trans Lasts Lasts Lasts := ⟨trans⟩

theorem isSome (h : Lasts s s') (hl : (s.listener? l).isSome) : (s'.listener? l).isSome := by
  obtain ⟨x, hx⟩ := Option.isSome_iff_exists.1 hl
  obtain ⟨x', hx', -⟩ := h.listener hx
  rw [hx']
  rfl

/-- Who is available was so before, if it was there. -/
theorem available (h : Lasts s s') (hl : (s.listener? l).isSome) (ha : s'.Available l) :
    s.Available l := by
  obtain ⟨x, hx⟩ := Option.isSome_iff_exists.1 hl
  obtain ⟨x', hx', hback⟩ := h.listener hx
  obtain ⟨y, hy, havailable⟩ := ha
  obtain rfl := Option.some.inj (hx'.symm.trans hy)
  exact ⟨x, hx, hback havailable⟩

end Lasts

theorem Available.isSome (h : s.Available l) : (s.listener? l).isSome := by
  obtain ⟨x, hx, -⟩ := h
  rw [hx]
  rfl

/-- Who is available is neither closed nor stranded. -/
theorem Available.open (h : s.Available l) {x : Listener} (hx : s.listener? l = some x) :
    x.closed = false ∧ x.isStranded = false := by
  obtain ⟨y, hy, havailable⟩ := h
  obtain rfl := Option.some.inj (hx.symm.trans hy)
  simpa [Listener.isAvailable] using havailable

theorem elementary_lasts : Elementary Lasts where
  aside h := ⟨h.history, fun hx => ⟨_, by rw [listener?, h.listeners]; exact hx, id⟩⟩
  enroll x s := by
    refine ⟨List.prefix_rfl, fun {l y} hy => ⟨y, ?_, id⟩⟩
    have hl : l < s.listeners.length := (List.getElem?_eq_some_iff.1 hy).1
    exact (List.getElem?_append_left hl).trans hy
  change {f} hf i s := by
    refine ⟨List.prefix_rfl, fun {l x} hx => ?_⟩
    rw [listener?_modifyListener, hx]
    split
    · exact ⟨f x, rfl, hf x⟩
    · exact ⟨x, rfl, id⟩

/-! ## Handing -/

/-- **A value is handed to a listener** between two moments. -/
def Hands (l : ListenerId) (value : Bool) (s s' : Switchboard) : Prop :=
  ∃ h, s'.history = s.history ++ h ∧ .handed l value ∈ h

theorem Hands.lasts (h : Hands l value s s') (h' : Lasts s' s'') : Hands l value s s'' := by
  obtain ⟨h₁, hs', hmem⟩ := h
  obtain ⟨h₂, hs''⟩ := h'.history
  exact ⟨h₁ ++ h₂, by rw [← hs'', hs', List.append_assoc], List.mem_append_left _ hmem⟩

theorem Lasts.hands (h : Lasts s s') (h' : Hands l value s' s'') : Hands l value s s'' := by
  obtain ⟨h₁, hs'⟩ := h.history
  obtain ⟨h₂, hs'', hmem⟩ := h'
  exact ⟨h₁ ++ h₂, by rw [hs'', ← hs', List.append_assoc], List.mem_append_right _ hmem⟩

theorem Hands.mem (h : Hands l value s s') {events : List Event}
    (hs : s'.history = s.history ++ events) : .handed l value ∈ events := by
  obtain ⟨events', hs', hmem⟩ := h
  rwa [List.append_cancel_left (hs.symm.trans hs')]

theorem hands_deliver (l : ListenerId) (value : Bool) (s : Switchboard) :
    Hands l value s (s.deliver l value) := ⟨[.handed l value], rfl, List.mem_singleton.2 rfl⟩

/-- What publishing comes to, if nothing fails. -/
theorem run_publish_eq_ok {topic : Text} (h : (publish react topic value).run s = (.ok (), s')) :
    ∃ t, ((s.attached topic).forM (hand react value)).run (s.written ⟨topic, value, value⟩)
      = (.ok (), t) ∧ Recorded t s' := by
  obtain ⟨⟨⟩, _, hensure, hrest⟩ := run_bind_eq_ok h
  obtain ⟨⟨⟩, t, hset, hnote⟩ := run_bind_eq_ok hrest
  obtain rfl : s.ensure topic value = _ := congrArg Prod.snd hensure
  rw [run_set_ensure] at hset
  exact ⟨t, hset, (recorded_note _ _).run hnote⟩

section

variable (hreact : ∀ l value, Keeps Lasts (react l value))

include hreact

/-- **Who is available is handed the value**, and may still fail by it. -/
theorem hands_hand (h : s.Available l) (value : Bool) :
    Hands l value s (after (hand react value l) s) := by
  have hdeliver := hands_deliver l value s
  have hcall : Hands l value s (after (react l value) (s.deliver l value)) :=
    hdeliver.lasts (hreact l value _)
  change Hands l value s (handed react value l s)
  rcases handed_cases react value l s with hhanded | ⟨-, hcalled⟩
  · generalize handed react value l s = t at hhanded ⊢
    cases hhanded with
    | passed hclosed =>
      obtain ⟨x, hx, -⟩ := id h
      exact absurd (hclosed x hx) (by rw [(h.open hx).1]; exact Bool.false_ne_true)
    | called _ hs =>
      rcases hs with rfl | ⟨severity, message, rfl⟩
      · exact hcall
      · exact hcall.lasts (elementary_lasts.aside ⟨rfl, rfl, List.prefix_rfl⟩)
    | stored =>
      have hstore : Lasts _ ((s.deliver l value).modifyListener l (·.store value)) :=
        elementary_lasts.change (fun x hx => by rwa [Listener.isAvailable_store] at hx) l _
      exact hdeliver.lasts (hstore.trans (elementary_lasts.aside ⟨rfl, rfl, List.prefix_rfl⟩))
    | queued => exact hdeliver.lasts (elementary_lasts.aside ⟨rfl, rfl, List.prefix_rfl⟩)
    | lost => exact hdeliver
    | dropped hx => cases (h.open hx).2
  · rwa [hcalled]

/-- **Who is in the list is handed the value**, if it is available to the end and nothing fails. -/
theorem hands_of_forM {ls : List ListenerId} (h : (ls.forM (hand react value)).run s = (.ok (), s'))
    (hmem : l ∈ ls) (hl : (s.listener? l).isSome) (ha : s'.Available l) : Hands l value s s' := by
  have hkeeps (i : ListenerId) : Keeps Lasts (hand react value i) :=
    elementary_lasts.hand hreact value i
  induction ls generalizing s with
  | nil => cases hmem
  | cons i ls ih =>
    obtain ⟨⟨⟩, t, hi, hrest⟩ := run_bind_eq_ok h
    have hfirst : Lasts s t := (hkeeps i).run hi
    have hlater : Lasts t s' := (Keeps.of_forM hkeeps ls).run hrest
    rcases List.mem_cons.1 hmem with rfl | hmem
    · have hhand := hands_hand hreact ((hfirst.trans hlater).available hl ha) value
      rw [after, hi] at hhand
      exact hhand.lasts hlater
    · exact hfirst.hands (ih hrest hmem (hfirst.isSome hl))

/-- **Who is attached is handed what is published**, if it is available to the end and nothing
fails. -/
theorem hands_publish {topic : Text} (h : (publish react topic value).run s = (.ok (), s'))
    (hmem : l ∈ s.attached topic) (hl : (s.listener? l).isSome) (ha : s'.Available l) :
    Hands l value s s' := by
  obtain ⟨t, hall, hnoted⟩ := run_publish_eq_ok h
  have hwritten : Lasts s (s.written ⟨topic, value, value⟩) :=
    elementary_lasts.aside (aside_written _ s)
  have hend : Lasts t s' := elementary_lasts.aside hnoted.aside
  have ht : (t.listener? l).isSome :=
    ((Keeps.of_forM (elementary_lasts.hand hreact value) _).run hall).isSome (hwritten.isSome hl)
  have hhands : Hands l value _ t :=
    hands_of_forM hreact hall hmem (hwritten.isSome hl) (hend.available ht ha)
  exact (hwritten.hands hhands).lasts hend

end

/-! ## Callbacks that do nothing but fail -/

/-- **A listener is told values and nothing else changes for it**: it is still available, and
attached as often as before. -/
structure Informed (l : ListenerId) (values : List Bool) (s s' : Switchboard) : Prop
    extends Told l values s s' where
  available : s'.Available l
  count : ∀ topic, (s'.attached topic).count l = (s.attached topic).count l

theorem Available.of_listener? (h : s.Available l) (hx : s'.listener? l = s.listener? l) :
    s'.Available l := by rwa [Available, hx]

theorem Available.modifyListener (h : s.Available l) {f : Listener → Listener}
    (hf : ∀ x, (f x).isAvailable = x.isAvailable) (i : ListenerId) :
    (s.modifyListener i f).Available l := by
  obtain ⟨x, hx, ha⟩ := h
  rw [Available, listener?_modifyListener, hx]
  split
  · exact ⟨f x, rfl, (hf x).symm ▸ ha⟩
  · exact ⟨x, rfl, ha⟩

namespace Informed

/-- What the listener has received since. -/
theorem received_eq {values : List Bool} (h : Informed l values s s') {events : List Event}
    (hs : s'.history = s.history ++ events) : FeatureFlags.received l events = values := by
  have hall := h.received
  rw [hs, received_append] at hall
  exact List.append_cancel_left hall

theorem trans {values values' : List Bool} (h : Informed l values s s')
    (h' : Informed l values' s' s'') : Informed l (values ++ values') s s'' :=
  ⟨h.toTold.trans h'.toTold, h'.available, fun topic => (h'.count topic).trans (h.count topic)⟩

/-- What the listener is told of another change besides. -/
theorem trans_nil {values : List Bool} (h : Informed l values s s') (h' : Informed l [] s' s'') :
    Informed l values s s'' := by
  have hall := h.trans h'
  rwa [List.append_nil] at hall

theorem refl (h : s.Available l) : Informed l [] s s :=
  ⟨.of_alike (Alike.refl s), h, fun _ => rfl⟩

/-- A change that does not concern the listener. -/
theorem of_alike (h : Alike s s') (ha : s'.Available l) : Informed l [] s s' :=
  ⟨.of_alike h, ha, fun topic => by rw [h.attached]⟩

theorem deliver (h : s.Available l) (i : ListenerId) (value : Bool) :
    Informed l (if i = l then [value] else []) s (s.deliver i value) :=
  ⟨.deliver i value s, h, fun _ => rfl⟩

theorem written (h : s.Available l) (w : Writing) : Informed l [] s (s.written w) := by
  refine ⟨.written w s, h.of_listener? ?_, fun topic => ?_⟩
  · rw [listener?, (aside_written w s).listeners, listener?]
  · rw [Switchboard.written, attached_write, attached_ensure]

theorem detach (h : s.Available l) (hi : l ≠ i) (topic : Text) :
    Informed l [] s (s.detach topic i) := by
  refine ⟨.detach hi topic s, h, fun t => ?_⟩
  rw [attached_detach]
  split
  · exact List.count_erase_of_ne hi
  · rfl

end Informed

/-- **A quiet callback is not noticed** by who is available. -/
theorem Conduct.informed (h : Conduct quiet s s') (ha : s.Available l) : Informed l [] s s' := by
  induction h with
  | done s => exact .refl ha
  | rewrite i f _ ih =>
    have hrewritten := ha.modifyListener
      (fun x => Listener.isAvailable_withScript (f x.script) x) i
    exact Informed.trans ⟨Told.modifyListener i _ _, hrewritten, fun _ => rfl⟩ (ih hrewritten)
  | perform _ _ ho => exact ho.elim

section

variable (hreact : Lawful quiet react)

include hreact

/-- **A value handed to one listener is told to it**, and to no other one that is available. -/
theorem informed_hand (h : s.Available l) (value : Bool) (i : ListenerId) :
    Informed l (if i = l then [value] else []) s (after (hand react value i) s) := by
  have hdeliver := Informed.deliver h i value
  have hcall : Informed l _ s (after (react i value) (s.deliver i value)) :=
    hdeliver.trans_nil ((hreact i value _).informed h)
  change Informed l _ s (handed react value i s)
  rcases handed_cases react value i s with hhanded | ⟨-, hcalled⟩
  · generalize handed react value i s = t at hhanded ⊢
    cases hhanded with
    | passed hclosed =>
      have hi : i ≠ l := by
        rintro rfl
        obtain ⟨x, hx, -⟩ := id h
        exact absurd (hclosed x hx) (by rw [(h.open hx).1]; exact Bool.false_ne_true)
      rw [if_neg hi]
      exact .refl h
    | called _ hs =>
      rcases hs with rfl | ⟨severity, message, rfl⟩
      · exact hcall
      · exact hcall.trans_nil (.of_alike (Alike.record severity message _) hcall.available)
    | stored =>
      have hstored := hdeliver.available.modifyListener (Listener.isAvailable_store value) i
      exact hdeliver.trans_nil (.of_alike
        ((Alike.modifyListener (Listener.bare_store value) i _).trans (Alike.wake i _)) hstored)
    | queued => exact hdeliver.trans_nil (.of_alike (Alike.enqueue i value _) h)
    | lost => exact hdeliver
    | @dropped topic unread closed message hx =>
      have hi : l ≠ i := by
        rintro rfl
        cases (h.open hx).2
      rw [if_neg hi.symm]
      have hclosed : ((s.record .debug message).modifyListener i (·.close)).Available l :=
        h.of_listener? (by rw [listener?_modifyListener, if_neg hi]; rfl)
      exact (Informed.of_alike (Alike.record .debug message s) h).trans
        (Informed.trans ⟨Told.modifyListener i _ _, hclosed, fun _ => rfl⟩
          (.detach hclosed hi topic))
  · rwa [hcalled]

/-- **What is handed out is told to who is available** once for every time it is in the list. -/
theorem informed_forM {ls : List ListenerId} (h : (ls.forM (hand react value)).run s = (.ok (), s'))
    (ha : s.Available l) : Informed l (List.replicate (ls.count l) value) s s' := by
  induction ls generalizing s with
  | nil =>
    obtain ⟨-, rfl⟩ := run_pure_eq_ok h
    exact .refl ha
  | cons i ls ih =>
    obtain ⟨⟨⟩, t, hi, hrest⟩ := run_bind_eq_ok h
    have hfirst := informed_hand hreact ha value i
    rw [after, hi] at hfirst
    have hall := hfirst.trans (ih hrest hfirst.available)
    rw [List.count_cons]
    by_cases he : i = l
    · rw [if_pos he] at hall
      rwa [if_pos (beq_iff_eq.2 he), List.replicate_succ]
    · rw [if_neg he] at hall
      rwa [if_neg (mt beq_iff_eq.1 he)]

/-- **What is published is told to who is available** once for every time it is attached. -/
theorem informed_publish {topic : Text} (h : (publish react topic value).run s = (.ok (), s'))
    (ha : s.Available l) :
    Informed l (List.replicate ((s.attached topic).count l) value) s s' := by
  obtain ⟨t, hall, hnoted⟩ := run_publish_eq_ok h
  have hwritten := Informed.written ha ⟨topic, value, value⟩
  have hinformed := informed_forM hreact hall hwritten.available
  have hend : s'.Available l := hinformed.available.of_listener? (by rw [hnoted]; rfl)
  exact (hwritten.trans hinformed).trans_nil (.of_alike hnoted.alike hend)

end

/-! ## Changed flags -/

variable {p : Operation → Bool} {f : Flag}

/-- **A flag is defined anew and its state published**, and nothing fails, where callbacks perform
what is permitted. -/
structure Updates (p : Operation → Bool) (f : Flag) (s s' : Switchboard) : Prop where
  publish : ∃ react t, Lawful (fun o _ => p o = true) react ∧
    (publish react f.name f.enabled).run { s with roster := s.roster.upsert f } = (.ok (), t) ∧
    Recorded t s'
  within : s'.within p

/-- **Performing the update of a flag**, if it does not fail. -/
theorem updates_of_perform {a : Answer} (hs : s.within p)
    (h : (perform (.change (.update (.ok f)))).run s = (.ok a, s')) : Updates p f s s' := by
  obtain ⟨react, hreact, hrun, hwithin⟩ :=
    performs_perform (p := p) (fun _ _ ho => ho) (o := .change (.update (.ok f))) rfl hs
  rw [after, h] at hwithin
  rw [h] at hrun
  obtain ⟨⟨⟩, t, hchange, hanswer⟩ := run_bind_eq_ok hrun.symm
  obtain ⟨_, t', hget, hpure⟩ := run_bind_eq_ok hanswer
  obtain rfl : t = t' := congrArg Prod.snd hget
  obtain ⟨-, rfl⟩ := run_pure_eq_ok hpure
  -- the data has passed, so the change is the update itself
  have hupdate : (update react f).run s = (.ok (), t) := hchange
  obtain ⟨⟨⟩, _, hmodify, hpublish⟩ := run_bind_eq_ok hupdate
  obtain ⟨⟨⟩, t', hpublish, hnote⟩ := run_bind_eq_ok hpublish
  obtain rfl : { s with roster := s.roster.upsert f } = _ := congrArg Prod.snd hmodify
  exact ⟨⟨react, t', hreact, hpublish, (recorded_note _ _).run hnote⟩, hwithin⟩

namespace Updates

/-- Records left behind do not matter. -/
theorem recorded (h : Updates p f s s') (hr : Recorded s' s'') : Updates p f s s'' := by
  obtain ⟨react, t, hreact, hpublish, hnoted⟩ := h.publish
  exact ⟨⟨react, t, hreact, hpublish, Trans.trans hnoted hr⟩,
    (within_alike hr.alike).trans h.within⟩

section

variable (hp : ∀ o, p o → o.keepsFlags) (h : Updates p f s s')

include hp h

theorem roster : s'.roster = s.roster.upsert f := by
  obtain ⟨react, t, hreact, hpublish, hnoted⟩ := h.publish
  have hkeeps := elementary_sameFlags.lawful (hreact.mono fun ho => hp _ ho)
  have ht : t.roster = s.roster.upsert f := (elementary_sameFlags.publish hkeeps _ _).run hpublish
  exact hnoted.alike.roster.trans ht

theorem lasts : Lasts s s' := by
  obtain ⟨react, t, hreact, hpublish, hnoted⟩ := h.publish
  have hkeeps := elementary_lasts.lawful (hreact.mono fun ho => hp _ ho)
  have ht : Lasts { s with roster := s.roster.upsert f } t :=
    (elementary_lasts.publish hkeeps _ _).run hpublish
  have hall := ht.trans (elementary_lasts.aside hnoted.aside)
  exact ⟨hall.history, hall.listener⟩

/-- **Who is attached to the flag is handed its state**, if it is available to the end. -/
theorem hands (hmem : l ∈ s.attached f.name) (hl : s.Available l) (ha : s'.Available l) :
    Hands l f.enabled s s' := by
  obtain ⟨react, t, hreact, hpublish, hnoted⟩ := h.publish
  have hkeeps := elementary_lasts.lawful (hreact.mono fun ho => hp _ ho)
  have hend : Lasts t s' := elementary_lasts.aside hnoted.aside
  have hs : (listener? { s with roster := s.roster.upsert f } l).isSome := hl.isSome
  have ht : (t.listener? l).isSome :=
    ((elementary_lasts.publish hkeeps _ _).run hpublish).isSome hs
  have hhands := hands_publish hkeeps hpublish hmem hs (hend.available ht ha)
  exact Hands.lasts hhands hend

end

/-- **Who is available is told the state once for every time it is attached**, if callbacks do
nothing but fail. -/
theorem informed (h : Updates (fun _ => false) f s s') (hl : s.Available l) :
    Informed l (List.replicate ((s.attached f.name).count l) f.enabled) s s' := by
  obtain ⟨react, t, hreact, hpublish, hnoted⟩ := h.publish
  have hquiet : Lawful quiet react := hreact.mono fun ho => absurd ho Bool.false_ne_true
  have ht : Informed l (List.replicate ((s.attached f.name).count l) f.enabled)
      { s with roster := s.roster.upsert f } t := informed_publish hquiet hpublish hl
  have hend : s'.Available l := ht.available.of_listener? (by rw [hnoted]; rfl)
  have hall := ht.trans_nil (.of_alike hnoted.alike hend)
  exact ⟨⟨hall.received, hall.attached, hall.directory⟩, hall.available, hall.count⟩

end Updates

end Switchboard

end FeatureFlags

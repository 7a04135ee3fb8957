import FeatureFlags.Proofs.Switchboard.Flags

/-!
# Proofs/Roster/Places — every flag keeps its place

A flag is put behind all others, or in the place of the first one of its name.  So no place is ever
given up, each keeps the name it has, and a flag that stands behind another one of its name stays
what it was when it was put there (`Continues`).  Such a flag is never seen by those who ask for its
name.  This holds of all that is done to a switchboard as long as the flags are not cleared, also
when callbacks change flags in the midst of it (`places_performAll`).
-/

namespace FeatureFlags

namespace Roster

variable {r r' r'' : Roster} {f g : Flag} {i j : Nat} {name : Text}

/-! ## Flags behind another one of their name -/

/-- **A place is shadowed** if a place before it has the same name. -/
def Shadowed (r : Roster) (i : Nat) : Prop :=
  ∃ j < i, ∃ g f, r[j]? = some g ∧ r[i]? = some f ∧ g.name = f.name

/-- A flag that is taken away is not missed under a name that it does not have, or that a flag
before it has. -/
theorem get?_eraseIdx_of_name
    (h : ∀ f, r[i]? = some f → f.name = name → ∃ j < i, ∃ g, r[j]? = some g ∧ g.name = name) :
    get? (r.eraseIdx i) name = r.get? name := by
  induction r generalizing i with
  | nil => rfl
  | cons g r ih =>
    cases i with
    | zero =>
      -- nothing stands before the first flag, so it is of another name
      have hg : g.name ≠ name := fun hg => by
        obtain ⟨j, hj, -⟩ := h g rfl hg
        exact absurd hj (Nat.not_lt_zero j)
      simp [get?, hg]
    | succ i =>
      by_cases hg : g.name = name
      · simp [get?, hg]
      · have hrest := ih fun f hf hname => by
          obtain ⟨j, hj, g', hg', hname'⟩ := h f hf hname
          cases j with
          | zero => exact absurd (Option.some.inj hg' ▸ hname') hg
          | succ j => exact ⟨j, Nat.lt_of_succ_lt_succ hj, g', hg', hname'⟩
        simpa [get?, hg] using hrest

/-- **A shadowed flag is not missed**, whatever name is asked for. -/
theorem get?_eraseIdx (h : r.Shadowed i) (name : Text) :
    get? (r.eraseIdx i) name = r.get? name := by
  obtain ⟨j, hj, g, f, hg, hf, hname⟩ := h
  refine get?_eraseIdx_of_name fun f' hf' hname' => ⟨j, hj, g, hg, ?_⟩
  rw [hname, ← hname', Option.some.inj (hf.symm.trans hf')]

/-! ## Rosters that go on from others -/

/-- **A roster continues another one**: places keep their names, and shadowed places their flags. -/
structure Continues (r r' : Roster) : Prop where
  names : r.map (·.name) <+: r'.map (·.name)
  shadowed {i : Nat} (h : r.Shadowed i) : r'[i]? = r[i]?

namespace Continues

/-- Each place has the name it had. -/
theorem exists_name (h : Continues r r') (hf : r[i]? = some f) :
    ∃ g, r'[i]? = some g ∧ g.name = f.name := by
  have hname : (r.map (·.name))[i]? = some f.name := by rw [List.getElem?_map, hf]; rfl
  obtain ⟨rest, hrest⟩ := h.names
  have hlt : i < (r.map (·.name)).length := (List.getElem?_eq_some_iff.1 hname).1
  rw [← List.getElem?_append_left hlt, hrest, List.getElem?_map] at hname
  exact Option.map_eq_some_iff.1 hname

/-- What is shadowed stays so. -/
theorem stays_shadowed (h : Continues r r') (hs : r.Shadowed i) : r'.Shadowed i := by
  obtain ⟨j, hj, g, f, hg, hf, hname⟩ := hs
  obtain ⟨g', hg', hname'⟩ := h.exists_name hg
  obtain ⟨f', hf', hname''⟩ := h.exists_name hf
  exact ⟨j, hj, g', f', hg', hf', hname'.trans (hname.trans hname''.symm)⟩

/-- What was there and is shadowed was shadowed before. -/
theorem was_shadowed (h : Continues r r') (hf : r[i]? = some f) (hs : r'.Shadowed i) :
    r.Shadowed i := by
  obtain ⟨j, hj, g', f', hg', hf', hname⟩ := hs
  have hlt : i < r.length := (List.getElem?_eq_some_iff.1 hf).1
  obtain ⟨g, hg⟩ : ∃ g, r[j]? = some g := ⟨_, List.getElem?_eq_getElem (Nat.lt_trans hj hlt)⟩
  obtain ⟨g'', hg'', hgname⟩ := h.exists_name hg
  obtain ⟨f'', hf'', hfname⟩ := h.exists_name hf
  cases hg'.symm.trans hg''
  cases hf'.symm.trans hf''
  exact ⟨j, hj, g, f, hg, hf, hgname.symm.trans (hname.trans hfname)⟩

theorem length_le (h : Continues r r') : r.length ≤ r'.length := by
  simpa using h.names.length_le

theorem refl (r : Roster) : Continues r r := ⟨List.prefix_rfl, fun _ => rfl⟩

theorem trans (h : Continues r r') (h' : Continues r' r'') : Continues r r'' :=
  ⟨h.names.trans h'.names, fun hs => (h'.shadowed (h.stays_shadowed hs)).trans (h.shadowed hs)⟩

end Continues

theorem continues_insertAll (r : Roster) (fs : List Flag) : Continues r (r.insertAll fs) := by
  refine ⟨?_, fun {i} hs => ?_⟩
  · rw [insertAll, List.map_append]
    exact List.prefix_append _ _
  · obtain ⟨-, -, -, f, -, hf, -⟩ := hs
    exact List.getElem?_append_left (List.getElem?_eq_some_iff.1 hf).1

theorem continues_insert (r : Roster) (f : Flag) : Continues r (r.insert f) :=
  continues_insertAll r [f]

/-- **Defining anew** changes no flag but the first one of its name. -/
theorem getElem?_upsert (f : Flag) (hg : r[i]? = some g) (h : g.name = f.name → r.Shadowed i) :
    (r.upsert f)[i]? = some g := by
  induction r generalizing i with
  | nil => cases hg
  | cons g₀ r ih =>
    by_cases hfirst : g₀.name = f.name
    · rw [upsert, if_pos hfirst]
      cases i with
      | zero =>
        cases hg
        obtain ⟨j, hj, -⟩ := h hfirst
        exact absurd hj (Nat.not_lt_zero j)
      | succ i => exact hg
    · rw [upsert, if_neg hfirst]
      cases i with
      | zero => exact hg
      | succ i =>
        refine ih hg fun hname => ?_
        obtain ⟨j, hj, g', f', hg', hf', hname'⟩ := h hname
        cases hg.symm.trans hf'
        cases j with
        | zero => exact absurd ((Option.some.inj hg' ▸ hname').trans hname) hfirst
        | succ j => exact ⟨j, Nat.lt_of_succ_lt_succ hj, g', g, hg', hg, hname'⟩

theorem names_upsert (r : Roster) (f : Flag) :
    r.map (·.name) <+: (r.upsert f).map (·.name) := by
  induction r with
  | nil => exact List.nil_prefix
  | cons g r ih =>
    by_cases hg : g.name = f.name
    · have hsame : (upsert (g :: r) f).map (·.name) = (g :: r).map (·.name) := by
        rw [upsert, if_pos hg, List.map_cons, List.map_cons, hg]
      exact hsame ▸ List.prefix_rfl
    · rw [upsert, if_neg hg, List.map_cons, List.map_cons]
      exact (List.prefix_cons_inj _).2 ih

theorem continues_upsert (r : Roster) (f : Flag) : Continues r (r.upsert f) := by
  refine ⟨names_upsert r f, fun {i} hs => ?_⟩
  obtain ⟨g, hg⟩ : ∃ g, r[i]? = some g := by
    obtain ⟨-, -, -, g, -, hg, -⟩ := hs
    exact ⟨g, hg⟩
  rw [hg]
  exact getElem?_upsert f hg fun _ => hs

end Roster

/-! ## Operations -/

/-- The flags are not cleared. -/
def Operation.clearsNothing : Operation → Bool
  | .change .empty => false
  | .change .clearAll => false
  | _ => true

namespace Switchboard

variable {react : React} {s s' : Switchboard}

/-- **The flags go on from those that were there.** -/
def Continues (s s' : Switchboard) : Prop := s.roster.Continues s'.roster

instance : Std.Refl Continues := ⟨fun s => .refl s.roster⟩

instance : Trans Continues Continues Continues := ⟨Roster.Continues.trans⟩

theorem continues_of_sameFlags (h : SameFlags s s') : Continues s s' := by
  rw [Continues, show s'.roster = s.roster from h]
  exact .refl s.roster

theorem elementary_continues : Elementary Continues where
  aside h := continues_of_sameFlags h.roster
  enroll _ _ := continues_of_sameFlags rfl
  change _ _ _ := continues_of_sameFlags rfl

/-- **A change lets the flags go on**, if callbacks do and it does not clear them. -/
theorem continues_change (h : ∀ l value, Keeps Continues (react l value)) {c : Change}
    (hc : (Operation.change c).clearsNothing) : Keeps Continues (change react c) := by
  have hroster {f : Roster → Roster} (hf : ∀ r : Roster, r.Continues (f r)) :
      Keeps Continues (modify fun s => { s with roster := f s.roster } : Action Unit) :=
    .of_modify fun s => hf s.roster
  have hnote := elementary_continues.note
  have hrequire {α : Type} {x : Checked α} {a : α → Action Unit} (ha : ∀ v, Keeps Continues (a v)) :
      Keeps Continues (require x >>= a) := by
    cases x with
    | ok v => exact ha v
    | error issues => exact .of_throw _
  cases c with
  | empty | clearAll => cases hc
  | save flag =>
    exact hrequire fun f => .of_bind (hroster fun r => r.continues_insert f) fun _ => hnote _ _
  | saveAll flags =>
    exact hrequire fun fs => .of_bind (hroster fun r => r.continues_insertAll fs) fun _ => hnote _ _
  | replace flag => exact hrequire fun f => hroster fun r => r.continues_upsert f
  | update flag =>
    exact hrequire fun f => .of_bind (hroster fun r => r.continues_upsert f) fun _ =>
      .of_bind (elementary_continues.publish h f.name f.enabled) fun _ => hnote _ _

theorem continues_execute (h : ∀ l value, Keeps Continues (react l value)) {o : Operation}
    (ho : o.clearsNothing) : Keeps Continues (execute react o) := by
  cases o with
  | change c => exact .of_bind (continues_change h ho) fun _ => .of_get fun _ => .of_pure _
  | _ => exact elementary_continues.execute h rfl

/-- **Callbacks let the flags go on** if no operation of theirs clears them, however deep they are
nested. -/
theorem continues_conduct (h : Conduct (fun o _ => o.clearsNothing) s s') : Continues s s' :=
  h.keeps (fun l f s => elementary_continues.rewritten l f s) fun hreact ho =>
    continues_execute hreact ho _

theorem continues_perform {o : Operation} (hs : s.within Operation.clearsNothing)
    (ho : o.within Operation.clearsNothing) :
    Continues s (after (perform o) s) ∧ (after (perform o) s).within Operation.clearsNothing := by
  rw [Operation.within_eq, Bool.and_eq_true] at ho
  have hperforms : Performs (fun o _ => o.clearsNothing) Operation.clearsNothing perform :=
    performs_perform fun _ _ h => h
  obtain ⟨react, hreact, hrun, hwithin⟩ := hperforms ho.2 hs
  refine ⟨?_, hwithin⟩
  have hafter : after (perform o) s = after (execute react o) s := congrArg Prod.snd hrun
  rw [hafter]
  exact continues_execute (fun l value s => continues_conduct (hreact l value s)) ho.1 s

/-- **A run lets the flags go on.** -/
theorem continues_performAll {os : List Operation} (hs : s.within Operation.clearsNothing)
    (hos : ∀ o ∈ os, o.within Operation.clearsNothing) :
    Continues s (performAll os s) ∧ (performAll os s).within Operation.clearsNothing := by
  induction os generalizing s with
  | nil => exact ⟨.refl s.roster, hs⟩
  | cons o os ih =>
    obtain ⟨ho, hos⟩ := List.forall_mem_cons.1 hos
    obtain ⟨hfirst, hwithin⟩ := continues_perform hs ho
    obtain ⟨hrest, hwithin'⟩ := ih hwithin hos
    exact ⟨hfirst.trans hrest, hwithin'⟩

/-- **Every flag keeps its place** as long as the flags are not cleared.  Whatever is done before a
moment and behind it, no place is lost from then on, the names stay in their order before those that
come to them, and the flag of a place is another one only if no place before it has its name.  So a
flag that stands behind another one of its name stays as it is, and whatever is asked about a name
is answered as if it were not there. -/
theorem places_performAll (hs : s.within Operation.clearsNothing) {before behind : List Operation}
    (hbefore : ∀ o ∈ before, o.within Operation.clearsNothing)
    (hbehind : ∀ o ∈ behind, o.within Operation.clearsNothing) :
    let s₁ := performAll before s
    let s₂ := performAll behind s₁
    s₁.roster.length ≤ s₂.roster.length ∧
    s₁.roster.map (·.name) <+: s₂.roster.map (·.name) ∧
    (∀ (i : Nat) f, s₁.roster[i]? = some f → ∃ g, s₂.roster[i]? = some g ∧ g.name = f.name ∧
      (g ≠ f → ¬ s₁.roster.Shadowed i ∧ ¬ s₂.roster.Shadowed i)) ∧
    ∀ i, s₁.roster.Shadowed i → s₂.roster[i]? = s₁.roster[i]? ∧ s₂.roster.Shadowed i ∧
      ∀ (q : Query) name, q.name? = some name → outcome (perform (.query q)) s₂
        = outcome (perform (.query q)) { s₂ with roster := s₂.roster.eraseIdx i } := by
  intro s₁ s₂
  have hwithin : s₁.within Operation.clearsNothing := (continues_performAll hs hbefore).2
  have h : s₁.roster.Continues s₂.roster := (continues_performAll hwithin hbehind).1
  refine ⟨h.length_le, h.names, fun i f hf => ?_, fun i hshadowed => ?_⟩
  · obtain ⟨g, hg, hname⟩ := h.exists_name hf
    have hfirst : g ≠ f → ¬ s₁.roster.Shadowed i := fun hne hshadowed =>
      hne (Option.some.inj (hg.symm.trans ((h.shadowed hshadowed).trans hf)))
    exact ⟨g, hg, hname, fun hne => ⟨hfirst hne, fun hs₂ => hfirst hne (h.was_shadowed hf hs₂)⟩⟩
  · refine ⟨h.shadowed hshadowed, h.stays_shadowed hshadowed, fun q name hq => ?_⟩
    exact outcome_query_congr hq (Roster.get?_eraseIdx (h.stays_shadowed hshadowed) name).symm

/-- Two flags of one name, and a callback that saves a third one as soon as the first is updated. -/
theorem places_performAll_twins :
    let twins : Roster := [⟨"a", true, .unrestricted⟩, ⟨"a", false, ⟨[">=29"], []⟩⟩]
    let third : Flag := ⟨"a", true, ⟨["7"], []⟩⟩
    let before : List Operation :=
      [.subscribe "c" "a" none [.perform (some false) 1 (.change (.save (.ok third)))]]
    let behind : List Operation := [.change (.update (.ok ⟨"a", false, .unrestricted⟩))]
    let s₁ := performAll before (ofRoster twins)
    let s₂ := performAll behind s₁
    s₁.roster.Shadowed 1 ∧ s₂.roster.length = 3 ∧ s₂.roster[1]? = twins[1]? ∧
      let s₃ := { s₂ with roster := s₂.roster.eraseIdx 1 }
      outcome (perform (.query (.isEnabled "a"))) s₂
        = outcome (perform (.query (.isEnabled "a"))) s₃ := by
  intro twins third before behind s₁ s₂
  have hshadowed : s₁.roster.Shadowed 1 := ⟨0, Nat.zero_lt_one, twins[0], twins[1], rfl, rfl, rfl⟩
  have hlength : s₂.roster.length = 3 := by decide +kernel
  have hs : (ofRoster twins).within Operation.clearsNothing := rfl
  have hbefore : ∀ o ∈ before, o.within Operation.clearsNothing := List.forall_mem_singleton.2 rfl
  have hbehind : ∀ o ∈ behind, o.within Operation.clearsNothing := List.forall_mem_singleton.2 rfl
  obtain ⟨-, -, -, hstays⟩ := places_performAll hs hbefore hbehind
  obtain ⟨hflag, -, hseen⟩ := hstays 1 hshadowed
  exact ⟨hshadowed, hlength, hflag, hseen (.isEnabled "a") "a" rfl⟩

end Switchboard

end FeatureFlags

import FeatureFlags.Proofs.Switchboard.Flags

/-!
# Proofs/Roster/Named — the flags of one name, apart from all others

A roster is one list for all names, but no name has to do with another: what a change makes of the
flags of a name (`named`), it makes of them alone, by the part of it that concerns that name
(`Change.part?`).  So any run of changes does for a name what the part of the run that concerns it
does where there is no other name (`named_performAll`).
-/

namespace FeatureFlags

namespace Roster

/-! ## The flags of a name -/

/-- **The flags of a name**, in order. -/
def named (r : Roster) (name : Text) : Roster := r.filter (·.name = name)

variable (name : Text)

theorem named_append (r r' : Roster) : named (r ++ r') name = r.named name ++ r'.named name :=
  List.filter_append r r'

theorem named_cons (f : Flag) (r : Roster) :
    named (f :: r) name = if f.name = name then f :: r.named name else r.named name := by
  simp [named, List.filter_cons]

/-- Among the flags of a name, the flag of that name is the same. -/
theorem get?_named (r : Roster) : (r.named name).get? name = r.get? name := by
  induction r with
  | nil => rfl
  | cons f r ih =>
    rw [named_cons]
    by_cases h : f.name = name
    · simp [get?, h]
    · rw [if_neg h, ih]
      simp [get?, h]

theorem named_insert (r : Roster) (f : Flag) :
    (r.insert f).named name = if f.name = name then (r.named name).insert f else r.named name := by
  rw [insert, named_append, named_cons]
  by_cases h : f.name = name
  · rw [if_pos h, if_pos h]
    rfl
  · rw [if_neg h, if_neg h]
    exact List.append_nil _

theorem named_insertAll (r : Roster) (fs : List Flag) :
    (r.insertAll fs).named name = (r.named name).insertAll (named fs name) :=
  named_append name r fs

/-- **Defining anew finds the same flag** among the flags of its name as among all, and touches no
other name. -/
theorem named_upsert (r : Roster) (f : Flag) :
    (r.upsert f).named name = if f.name = name then (r.named name).upsert f else r.named name := by
  induction r with
  | nil => exact named_cons name f []
  | cons g r ih =>
    by_cases hg : g.name = f.name
    · -- `g` gives way to `f`, both of them of the name or neither
      rw [upsert, if_pos hg, named_cons, named_cons, hg]
      by_cases hf : f.name = name
      · rw [if_pos hf, if_pos hf, if_pos hf, upsert, if_pos hg]
      · rw [if_neg hf, if_neg hf, if_neg hf]
    · rw [upsert, if_neg hg, named_cons, named_cons, ih]
      by_cases hf : f.name = name
      · -- a flag of another name stands before the one that is found
        have hgn : g.name ≠ name := fun h => hg (h.trans hf.symm)
        rw [if_pos hf, if_neg hgn, if_neg hgn, if_pos hf]
      · rw [if_neg hf, if_neg hf]

end Roster

/-! ## Changes -/

namespace Change

/-- **The part of a change that concerns a name**, if there is one: a flag of that name, those of
several flags, and the end of all flags.  Data that does not pass concerns no name. -/
def part? (name : Text) : Change → Option Change
  | .save (.ok f) => if f.name = name then some (.save (.ok f)) else none
  | .saveAll (.ok fs) => some (.saveAll (.ok (Roster.named fs name)))
  | .replace (.ok f) => if f.name = name then some (.replace (.ok f)) else none
  | .update (.ok f) => if f.name = name then some (.update (.ok f)) else none
  | .empty => some .empty
  | .clearAll => some .clearAll
  | _ => none

/-- The part of a run that concerns a name. -/
def parts (name : Text) (cs : List Change) : List Change := cs.filterMap (part? name)

/-- **A change makes of the flags of a name what its part makes of them alone.** -/
theorem named_roster (name : Text) (c : Change) (r : Roster) :
    (c.roster r).named name = (c.part? name).elim (r.named name) (·.roster (r.named name)) := by
  cases c with
  | empty | clearAll => rfl
  | save flag =>
    cases flag with
    | error => rfl
    | ok f =>
      rw [roster, Roster.named_insert, part?]
      split <;> rfl
  | saveAll flags =>
    cases flags with
    | error => rfl
    | ok fs => exact Roster.named_insertAll name r fs
  | replace flag | update flag =>
    cases flag with
    | error => rfl
    | ok f =>
      rw [roster, Roster.named_upsert, part?]
      split <;> rfl

/-- **A run makes of the flags of a name what the part that concerns it makes of them alone.** -/
theorem named_foldl (name : Text) (cs : List Change) (r : Roster) :
    Roster.named (cs.foldl (fun r c => c.roster r) r) name
      = (parts name cs).foldl (fun r c => c.roster r) (r.named name) := by
  induction cs generalizing r with
  | nil => rfl
  | cons c cs ih =>
    rw [List.foldl_cons, ih, named_roster, parts, parts, List.filterMap_cons]
    cases c.part? name <;> rfl

end Change

/-! ## Runs -/

namespace Switchboard

/-- **No name has to do with another.**  Whatever changes are performed, the flags of a name are
those that come of the flags it had before, where there were no others, by the part of the changes
that concerns it; and whatever is asked about the name is answered alike. -/
theorem named_performAll (name : Text) (r : Roster) (cs : List Change) :
    let s := performAll (cs.map .change) (ofRoster r)
    let s' := performAll ((Change.parts name cs).map .change) (ofRoster (r.named name))
    s.roster.named name = s'.roster ∧ ∀ q : Query, q.name? = some name →
      ((perform (.query q)).run s).1 = ((perform (.query q)).run s').1 := by
  intro s s'
  have hs : s.roster = cs.foldl (fun r c => c.roster r) r := roster_performAll cs rfl
  have hs' : s'.roster = (Change.parts name cs).foldl (fun r c => c.roster r) (r.named name) :=
    roster_performAll (Change.parts name cs) rfl
  have hnamed : s.roster.named name = s'.roster := by rw [hs, Change.named_foldl, hs']
  refine ⟨hnamed, fun q hq => outcome_query_congr hq ?_⟩
  -- nothing is left on the second switchboard but the flags of the name
  rw [← hnamed, Roster.get?_named]

end Switchboard

end FeatureFlags

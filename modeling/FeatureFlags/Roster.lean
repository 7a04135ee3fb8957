import FeatureFlags.Flag.Basic

/-!
# Roster — the flags that are defined

A roster is a list of flags in the order in which they were defined.  Several flags may have one
name; then the first of them counts, and the later ones are only seen where the whole roster is.
-/

namespace FeatureFlags

/-- **The flags in the order of their definition.** -/
abbrev Roster := List Flag

namespace Roster

/-- A flag behind all others. -/
def insert (r : Roster) (f : Flag) : Roster := r ++ [f]

/-- Flags behind all others, in order. -/
def insertAll (r : Roster) (fs : List Flag) : Roster := r ++ fs

/-- **Defining anew**: the flag takes the place of the first one of its name, or the last place. -/
def upsert : Roster → Flag → Roster
  | [], f => [f]
  | g :: r, f => if g.name = f.name then f :: r else g :: upsert r f

/-- **The flag of a name**: the first one. -/
def get? (r : Roster) (name : Text) : Option Flag := r.find? (·.name = name)

/-- Whether there is a flag of a name. -/
def contains (r : Roster) (name : Text) : Bool := (r.get? name).isSome

/-- The state of a flag; without a flag the given one. -/
def stateOr (r : Roster) (name : Text) (absent : Bool) : Bool :=
  ((r.get? name).map (·.enabled)).getD absent

/-- Whether a flag is on; without a flag it is off. -/
def isEnabled (r : Roster) (name : Text) : Bool := r.stateOr name false

/-- The flags that are on. -/
def enabled (r : Roster) : List Flag := r.filter (·.enabled)

/-- The flags that are off. -/
def disabled (r : Roster) : List Flag := r.filter (!·.enabled)

/-- Whether some flag is on. -/
def anyEnabled (r : Roster) : Bool := r.any (·.enabled)

/-- The level rules of a flag; without a flag none. -/
def levelRules (r : Roster) (name : Text) : List Text :=
  ((r.get? name).map (·.condition.levels)).getD []

/-- The version rules of a flag; without a flag none. -/
def versionRules (r : Roster) (name : Text) : List Text :=
  ((r.get? name).map (·.condition.versions)).getD []

/-- **The flag of a name after defining anew.** -/
theorem get?_upsert (r : Roster) (f : Flag) (name : Text) :
    (r.upsert f).get? name = if f.name = name then some f else r.get? name := by
  induction r with
  | nil => by_cases h : f.name = name <;> simp [upsert, get?, h]
  | cons g r ih =>
    by_cases hg : g.name = f.name
    · by_cases h : f.name = name <;> simp [upsert, get?, hg, h]
    · rw [upsert, if_neg hg]
      by_cases h : g.name = name
      · have hf : ¬ f.name = name := fun e => hg (h.trans e.symm)
        simp [get?, h, hf]
      · simpa [get?, h] using ih

end Roster

end FeatureFlags

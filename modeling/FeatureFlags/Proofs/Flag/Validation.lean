import FeatureFlags.Proofs.Flag.Persistence
import FeatureFlags.Proofs.Reading

/-!
# Proofs/Flag/Validation — which values are flags, and how many issues the others have

A value is a flag if it is an object whose three fields say what a flag is; no other field matters
(`Flag.Stated`).  Otherwise there is an issue for each part of it that is wrong, and a value that is
no object is wrong as a whole (`Flag.issues`).  Decoding finds just these flags and so many issues
(`Flag.decode_eq_ok_iff`, `Flag.count_decode`).
-/

namespace FeatureFlags

open Checked

namespace Reading

variable {α : Type} {name : Text} {read : Json → Checked α} {absent a : α}
  {fields : List (Text × Json)} {v : Json}

/-! ## Parts of a value -/

theorem required_eq_ok_iff : required name read fields = .ok a ↔
    ∃ v, Json.lookup? name fields = some v ∧ read v = .ok a := by
  rw [required, within_eq_ok_iff]
  cases Json.lookup? name fields with
  | none => exact iff_of_false nofun nofun
  | some v =>
    refine ⟨fun h => ⟨v, rfl, h⟩, ?_⟩
    rintro ⟨_, ⟨⟩, h⟩
    exact h

theorem count_required : (required name read fields).count
    = (Json.lookup? name fields).elim 1 fun v => (read v).count := by
  rw [required, count_within]
  cases Json.lookup? name fields <;> rfl

theorem count_defaulted : (defaulted name read absent fields).count
    = (Json.lookup? name fields).elim 0 fun v => (read v).count := by
  rw [defaulted, count_within]
  cases Json.lookup? name fields <;> rfl

theorem strings_eq_ok_iff {ts : List Text} : strings v = .ok ts ↔ v = .texts ts := by
  refine ⟨fun h => ?_, fun h => h ▸ strings_texts ts⟩
  cases v with
  | arr vs =>
    refine congrArg Json.arr ?_
    have hitems := itemsFrom_eq_ok_iff.1 h
    clear h
    induction hitems with
    | nil => rfl
    | cons ht _ ih =>
      rw [string_eq_ok_iff.1 ht, ih]
      rfl
  | _ => cases h

end Reading

/-! ## Flags -/

/-- **Rules as they are stated**: a list of strings, or none where nothing is stated. -/
def RulesStated (v : Option Json) (rules : List Text) : Prop :=
  v.elim (rules = []) (· = .texts rules)

/-- **A condition as it is stated** by an object. -/
def Condition.Stated (v : Json) (c : Condition) : Prop :=
  ∃ fields, v = .obj fields ∧
    RulesStated (Json.lookup? "supported_levels" fields) c.levels ∧
    RulesStated (Json.lookup? "supported_versions" fields) c.versions

namespace Flag

/-- **A flag as it is stated** by an object: its name is a string of more than blanks, its state is
a truth value, and without a condition it is not restricted. -/
def Stated (v : Json) (f : Flag) : Prop :=
  ∃ fields, v = .obj fields ∧
    (Json.lookup? "name" fields = some (.str f.name) ∧ ∃ c ∈ f.name, c.isBlank = false) ∧
    (∃ w, Json.lookup? "enabled" fields = some w ∧ Reading.truth w = .ok f.enabled) ∧
    (Json.lookup? "condition" fields).elim (f.condition = .unrestricted)
      (Condition.Stated · f.condition)

theorem validName_iff {name : Text} : validName name = true ↔ ∃ c ∈ name, c.isBlank = false := by
  rw [validName, Bool.not_eq_true', Text.isBlank, List.all_eq_false]
  simp only [Bool.not_eq_true]

theorem decodeName_eq_ok_iff {v : Json} {name : Text} :
    decodeName v = .ok name ↔ v = .str name ∧ ∃ c ∈ name, c.isBlank = false := by
  rw [decodeName, bind_eq_ok_iff, ← validName_iff]
  simp only [Reading.string_eq_ok_iff]
  constructor
  · rintro ⟨t, rfl, h⟩
    split at h
    · cases h
      exact ⟨rfl, ‹_›⟩
    · cases h
  · rintro ⟨rfl, h⟩
    exact ⟨name, rfl, if_pos h⟩

end Flag

theorem Condition.decode_eq_ok_iff {notObject : IssueKind} {v : Json} {c : Condition} :
    Condition.decode notObject v = .ok c ↔ Condition.Stated v c := by
  cases v with
  | obj fields =>
    refine map_eq_ok_iff.trans ?_
    constructor
    · rintro ⟨⟨levels, versions⟩, h, rfl⟩
      obtain ⟨hlevels, hversions⟩ := both_eq_ok_iff.1 h
      rw [Reading.defaulted_eq_ok_iff] at hlevels hversions
      simp only [Reading.strings_eq_ok_iff] at hlevels hversions
      exact ⟨fields, rfl, hlevels, hversions⟩
    · rintro ⟨_, ⟨⟩, hlevels, hversions⟩
      refine ⟨(c.levels, c.versions), both_eq_ok_iff.2 ?_, rfl⟩
      rw [Reading.defaulted_eq_ok_iff, Reading.defaulted_eq_ok_iff]
      simp only [Reading.strings_eq_ok_iff]
      exact ⟨hlevels, hversions⟩
  | _ => exact iff_of_false nofun (by rintro ⟨_, ⟨⟩, _⟩)

namespace Flag

/-- **Decoding finds the flags that are stated**, and no others. -/
theorem decode_eq_ok_iff {notObject : IssueKind} {v : Json} {f : Flag} :
    decode notObject v = .ok f ↔ Stated v f := by
  cases v with
  | obj fields =>
    refine map_eq_ok_iff.trans ?_
    constructor
    · rintro ⟨⟨name, enabled, condition⟩, h, rfl⟩
      obtain ⟨hname, h⟩ := both_eq_ok_iff.1 h
      obtain ⟨henabled, hcondition⟩ := both_eq_ok_iff.1 h
      obtain ⟨w, hw, hname⟩ := Reading.required_eq_ok_iff.1 hname
      obtain ⟨rfl, hvalid⟩ := decodeName_eq_ok_iff.1 hname
      rw [Reading.defaulted_eq_ok_iff] at hcondition
      simp only [Condition.decode_eq_ok_iff] at hcondition
      exact ⟨fields, rfl, ⟨hw, hvalid⟩, Reading.required_eq_ok_iff.1 henabled, hcondition⟩
    · rintro ⟨_, ⟨⟩, ⟨hname, hvalid⟩, henabled, hcondition⟩
      refine ⟨(f.name, f.enabled, f.condition), both_eq_ok_iff.2 ⟨?_, both_eq_ok_iff.2 ⟨?_, ?_⟩⟩,
        rfl⟩
      · exact Reading.required_eq_ok_iff.2 ⟨_, hname, decodeName_eq_ok_iff.2 ⟨rfl, hvalid⟩⟩
      · exact Reading.required_eq_ok_iff.2 henabled
      · rw [Reading.defaulted_eq_ok_iff]
        simp only [Condition.decode_eq_ok_iff]
        exact hcondition
  | _ => exact iff_of_false nofun (by rintro ⟨_, ⟨⟩, _⟩)

/-! ## Issues -/

/-- The issues of a rule: it has to be a string. -/
def issuesOfRule : Json → Nat
  | .str _ => 0
  | _ => 1

/-- The issues of a list of rules, those of each rule; what is no list is wrong as a whole. -/
def issuesOfRules : Json → Nat
  | .arr vs => (vs.map issuesOfRule).sum
  | _ => 1

/-- The issues of a condition. -/
def issuesOfCondition : Json → Nat
  | .obj fields => (Json.lookup? "supported_levels" fields).elim 0 issuesOfRules
      + (Json.lookup? "supported_versions" fields).elim 0 issuesOfRules
  | _ => 1

/-- The issues of a name: it has to be a string of more than blanks. -/
def issuesOfName : Json → Nat
  | .str name => if name.isBlank then 1 else 0
  | _ => 1

/-- The issues of a state: it has to be a truth value. -/
def issuesOfState (v : Json) : Nat := if (Reading.truth v).isOk then 0 else 1

/-- **The issues of a flag**, those of each part; name and state have to be there. -/
def issues : Json → Nat
  | .obj fields => (Json.lookup? "name" fields).elim 1 issuesOfName
      + (Json.lookup? "enabled" fields).elim 1 issuesOfState
      + (Json.lookup? "condition" fields).elim 0 issuesOfCondition
  | _ => 1

theorem count_strings (v : Json) : (Reading.strings v).count = issuesOfRules v := by
  cases v with
  | arr vs =>
    refine (count_itemsFrom Reading.string 0 vs).trans (congrArg List.sum ?_)
    refine List.map_congr_left fun v _ => ?_
    cases v <;> rfl
  | _ => rfl

theorem count_decodeCondition (notObject : IssueKind) (v : Json) :
    (Condition.decode notObject v).count = issuesOfCondition v := by
  cases v with
  | obj fields =>
    refine (count_map _ _).trans ?_
    rw [count_both, Reading.count_defaulted, Reading.count_defaulted, funext count_strings]
    rfl
  | _ => rfl

theorem count_decodeName (v : Json) : (decodeName v).count = issuesOfName v := by
  cases v with
  | str name =>
    change count (if !name.isBlank then .ok name else fail (.rejected .blankName)) = _
    rw [issuesOfName]
    cases name.isBlank <;> rfl
  | _ => rfl

theorem count_truth (v : Json) : (Reading.truth v).count = issuesOfState v := by
  rw [issuesOfState]
  obtain ⟨b, hb⟩ | ⟨kind, hkind⟩ := Reading.single_truth v
  · rw [hb]
    rfl
  · rw [hkind]
    rfl

/-- **Decoding finds all issues**, each of them once. -/
theorem count_decode (notObject : IssueKind) (v : Json) :
    (decode notObject v).count = issues v := by
  cases v with
  | obj fields =>
    refine (count_map _ _).trans ?_
    rw [count_both, count_both, Reading.count_required, Reading.count_required,
      Reading.count_defaulted, funext count_decodeName, funext count_truth,
      funext (count_decodeCondition notObject), ← Nat.add_assoc]
    rfl
  | _ => rfl

end Flag

end FeatureFlags

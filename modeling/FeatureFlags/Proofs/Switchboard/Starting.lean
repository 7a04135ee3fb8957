import FeatureFlags.Proofs.Flag.Loading
import FeatureFlags.Proofs.Flag.Persistence
import FeatureFlags.Proofs.Switchboard.Flags

/-!
# Proofs/Switchboard/Starting — a start adopts all flags that are loaded, or none

Whatever comes of loading, starting does not fail.  If a source returns flags (`Source.Returns`),
all of them are put behind those that are there; otherwise these stay alone
(`start_all_or_nothing`).
-/

namespace FeatureFlags

/-- **A source returns flags**: those it has been given, or those of the file that the settings
name.  A source that fails, for whatever reason, returns none. -/
inductive Source.Returns (settings : Settings) : Source → List Flag → Prop
  | given (fs : List Flag) : Returns settings (.given fs) fs
  | file {files : FileTree} {fs : List Flag} (h : Loading.Gives files settings.cachePath fs) :
      Returns settings (.file files) fs

namespace Source

variable {settings : Settings} {source : Source} {fs : List Flag}

theorem load_eq_ok_iff : (source.load settings).2 = .ok fs ↔ source.Returns settings fs := by
  constructor
  · intro h
    cases source with
    | file files =>
      cases hload : (Loading.load files settings.cachePath).result with
      | error => rw [load, hload] at h; cases h
      | ok fs' =>
        rw [load, hload] at h
        cases h
        exact .file (Loading.load_eq_ok_iff.1 hload)
    | given => cases h; exact .given _
    | faulty x => cases x <;> cases h
    | broken => cases h
  · intro h
    cases h with
    | given => rfl
    | file h => rw [load, Loading.load_eq_ok_iff.2 h]; rfl

end Source

namespace Switchboard

variable {fs : List Flag}

/-! ## Adopting flags -/

/-- **What comes of loading is adopted or recorded**, and neither fails. -/
theorem run_adopt (result : Except Unloaded (List Flag)) (s : Switchboard) :
    ∃ records, (adopt result).run s = (.ok (),
      { s with roster := s.roster ++ result.toOption.getD [], records }) := by
  cases result with
  | ok fs => exact ⟨_, rfl⟩
  | error x =>
    rw [Except.toOption, Option.getD_none, List.append_nil]
    cases x <;> exact ⟨_, rfl⟩

/-- The flags that a start puts behind those that are there. -/
def adopted (settings : Settings) (source : Source) : List Flag :=
  if settings.cacheEnabled then (source.load settings).2.toOption.getD [] else []

/-- **A start leaves flags and records, and nothing else.** -/
theorem exists_start_eq (settings : Settings) (source : Source) (flags : List Flag) :
    ∃ records, start settings source flags
      = ⟨{ ofRoster (flags ++ adopted settings source) with records },
          if settings.cacheEnabled then 1 else 0⟩ := by
  unfold adopted
  cases henabled : settings.cacheEnabled with
  | true =>
    obtain ⟨records, h⟩ := run_adopt (source.load settings).2
      { ofRoster flags with records := (source.load settings).1 }
    exact ⟨records, (start_of_enabled henabled source flags).trans
      (congrArg (fun after => (⟨after.2, 1⟩ : Start)) h)⟩
  | false =>
    refine ⟨[], (start_of_disabled henabled source flags).trans ?_⟩
    rw [if_neg Bool.false_ne_true, List.append_nil]
    rfl

/-- **A start adopts all flags or none.**  Whatever the settings, the flags that are there and the
source:

* adopting what comes of loading does not fail;
* flags are loaded once if the settings ask for it, and otherwise not at all;
* nobody listens afterwards, and no name has a signal;
* if flags are loaded and the source returns some, all of them stand in their order behind those
  that were there;
* otherwise these are as they were. -/
theorem start_all_or_nothing (settings : Settings) (source : Source) (flags : List Flag) :
    let st := start settings source flags
    (∀ s, outcome (adopt (source.load settings).2) s = .ok ()) ∧
    st.loads = (if settings.cacheEnabled then 1 else 0) ∧
    (∃ records, st.switchboard = { ofRoster st.switchboard.roster with records }) ∧
    (∀ fs, settings.cacheEnabled → source.Returns settings fs →
      st.switchboard.roster = flags ++ fs) ∧
    ((settings.cacheEnabled → ∀ fs, ¬ source.Returns settings fs) →
      st.switchboard.roster = flags) := by
  intro st
  obtain ⟨records, hst⟩ : ∃ records, st = _ := exists_start_eq settings source flags
  have hroster : st.switchboard.roster = flags ++ adopted settings source := by rw [hst]; rfl
  refine ⟨fun s => ?_, by rw [hst], ⟨records, by rw [hst]; rfl⟩, ?_, ?_⟩
  · obtain ⟨_, hrun⟩ := run_adopt (source.load settings).2 s
    rw [outcome, hrun]
  · intro fs henabled hreturns
    rw [hroster, adopted, if_pos henabled, Source.load_eq_ok_iff.2 hreturns]
    rfl
  · intro hnone
    rw [hroster, adopted]
    split
    · rename_i henabled
      cases hload : (source.load settings).2 with
      | error => exact List.append_nil flags
      | ok fs => exact absurd (Source.load_eq_ok_iff.1 hload) (hnone henabled fs)
    · exact List.append_nil flags

/-! ## A file that is not all flags -/

/-- A flag, and behind it an item that is none. -/
def halfFiles : FileTree :=
  [(.ofText "flag_cache.json",
    .file (Utf8.encode (Json.arr [Flag.toJson ⟨"a", true, .unrestricted⟩, .null]).render))]

theorem not_returns_half (fs : List Flag) :
    ¬ (Source.file halfFiles).Returns Flag.twinsSettings fs := by
  intro h
  have hload : ((Source.file halfFiles).load Flag.twinsSettings).2.isOk = false := by
    decide +kernel
  rw [Source.load_eq_ok_iff.2 h] at hload
  cases hload

/-- The flag before the item that is none is not adopted either, and flags that are given are. -/
theorem start_all_or_nothing_half :
    (start Flag.twinsSettings (.file halfFiles) Flag.twins).switchboard.roster = Flag.twins ∧
    (start Flag.twinsSettings (.given [⟨"a", true, .unrestricted⟩]) Flag.twins).switchboard.roster
      = Flag.twins ++ [⟨"a", true, .unrestricted⟩] := by
  obtain ⟨-, -, -, -, hnone⟩ := start_all_or_nothing Flag.twinsSettings (.file halfFiles) Flag.twins
  obtain ⟨-, -, -, hall, -⟩ := start_all_or_nothing Flag.twinsSettings
    (.given [⟨"a", true, .unrestricted⟩]) Flag.twins
  exact ⟨hnone fun _ => not_returns_half, hall _ rfl (.given _)⟩

end Switchboard

end FeatureFlags

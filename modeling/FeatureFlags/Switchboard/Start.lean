import FeatureFlags.Flag.Loading
import FeatureFlags.Settings
import FeatureFlags.Switchboard.Delivery

/-!
# Switchboard/Start — setting up a switchboard

A switchboard starts with the flags it is given.  If the settings ask for it, flags are loaded once
and put behind those; when loading fails, a warning is left and none of them is there.
-/

namespace FeatureFlags

/-- **Where flags are loaded from**, and what comes of it: the file that the settings name, or a
source of another kind, which gives flags, fails with a fault or fails otherwise.  A source that is
`broken` raises an `Exception` of any other class; an interrupt or an exit of the program is no
`Exception`, and a start would not catch it. -/
inductive Source where
  | file (files : FileTree)
  | given (flags : List Flag)
  | faulty (fault : Fault)
  | broken

/-- Why nothing was loaded: the fault that says so, or an `Exception` of any other class. -/
inductive Unloaded where
  | fault (fault : Fault)
  | broken

namespace Source

/-- **Loading from a source.**  Only the fault for what cannot be loaded counts as one. -/
def load (settings : Settings) : Source → List Record × Except Unloaded (List Flag)
  | .file files =>
    let loading := Loading.load files settings.cachePath
    (loading.records, loading.result.mapError fun failure =>
      (failure.fault?.map Unloaded.fault).getD .broken)
  | .given flags => ([], .ok flags)
  | .faulty (.unloadable path reason) => ([], .error (.fault (.unloadable path reason)))
  | .faulty _ => ([], .error .broken)
  | .broken => ([], .error .broken)

/-- **Asking a source** for its flags counts. -/
def ask (settings : Settings) (source : Source) :
    StateM Nat (List Record × Except Unloaded (List Flag)) := do
  modify (· + 1)
  return source.load settings

end Source

/-- **A start**: the switchboard, and how often a source was asked for flags. -/
structure Start where
  switchboard : Switchboard
  loads : Nat

namespace Switchboard

/-- What comes of loading, put behind the flags that are there. -/
def adopt (result : Except Unloaded (List Flag)) : Action Unit :=
  match result with
  | .ok flags => saveAll flags
  | .error (.fault fault) =>
    note .warning ("Starting with no features, cache load failed: " ++ fault.message)
  | .error .broken => note .warning "Starting with no features, cache loader raised"

/-- **Preparing a switchboard** with the flags that are there, and those of a source if the settings
ask for it. -/
def prepare (settings : Settings) (source : Source) (flags : List Flag) : StateM Nat Switchboard := do
  if settings.cacheEnabled then
    let (records, result) ← source.ask settings
    let loaded : Switchboard := { ofRoster flags with records }
    return ((adopt result).run loaded).2
  else return ofRoster flags

/-- **Starting a switchboard.**  No source was asked before. -/
def start (settings : Settings) (source : Source) (flags : List Flag) : Start :=
  let (switchboard, loads) := (prepare settings source flags).run 0
  ⟨switchboard, loads⟩

variable {settings : Settings}

/-- If the settings ask for it, the source is asked once. -/
theorem start_of_enabled (h : settings.cacheEnabled = true) (source : Source) (flags : List Flag) :
    start settings source flags = ⟨((adopt (source.load settings).2).run
      { ofRoster flags with records := (source.load settings).1 }).2, 1⟩ := by
  rw [start, prepare, if_pos h]
  rfl

/-- Otherwise the source is not asked, and it makes no difference which one it is. -/
theorem start_of_disabled (h : settings.cacheEnabled = false) (source : Source)
    (flags : List Flag) : start settings source flags = ⟨ofRoster flags, 0⟩ := by
  rw [start, prepare, if_neg (Bool.eq_false_iff.1 h)]
  rfl

end Switchboard

end FeatureFlags

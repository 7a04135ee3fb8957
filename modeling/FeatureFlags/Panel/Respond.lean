import FeatureFlags.Panel.Message
import FeatureFlags.Settings
import FeatureFlags.Switchboard.Perform
import FeatureFlags.Text.Quoted

/-!
# Panel/Respond — answering requests

The panel lists the flags, shows whether the host may use them, and defines, replaces and toggles
them.  What is shown of a flag goes by the rules of the first flag of its name.  A request that is
refused leaves flags and signals as they are.
-/

namespace FeatureFlags

namespace Panel

open Switchboard

/-- **A flag as it is shown**, for a level and a version. -/
def row (f : Flag) (level : Option Int) (version : Option Text) : Action Json := do
  let e ← eligibility f.name level version
  return .obj [("name", .str f.name), ("enabled", .bool f.enabled),
    ("supported_levels", .texts f.condition.levels),
    ("supported_versions", .texts f.condition.versions),
    ("level_supported", .ofOption .bool e.level), ("version_supported", .ofOption .bool e.version)]

/-- The level of the host. -/
def hostLevel (settings : Settings) : Option Int := settings.platformLevel.map Int.ofNat

/-- A flag as it is shown for the host. -/
def hostRow (settings : Settings) (f : Flag) : Action Json :=
  row f (hostLevel settings) settings.hostVersion

/-- How the panel is, and for how many flags. -/
def health (settings : Settings) : Action Response := do
  return .of 200 (.obj [("status", .str "healthy"), ("version", .str settings.appVersion),
    ("features", .int (← get).roster.length)])

/-- **All flags.** -/
def list (settings : Settings) : Action Response := do
  let roster := (← get).roster
  let rows ← roster.mapM (hostRow settings)
  return .of 200 (.obj [("features", .arr rows), ("enabled_count", .int roster.enabled.length),
    ("disabled_count", .int roster.disabled.length), ("total_count", .int roster.length)])

/-- **A flag defined**, besides those of its name. -/
def create (settings : Settings) (r : Request) : Action Response := do
  match r.read (Flag.decode .modelAttributesType) with
  | .error response => return response
  | .ok f =>
    let _ ← perform (.change (.save (.ok f)))
    return .of 201 (← hostRow settings f)

/-- **All flags gone.** -/
def clear : Action Response := do
  let _ ← perform (.change .clearAll)
  return .done

/-- A fault, which leaves a warning. -/
def refuse (f : Fault) : Action Response := do
  note .warning (f.code.name ++ ": " ++ f.message)
  return .fault f

/-- **One flag**, for the level and the version asked for, or those of the host. -/
def read (settings : Settings) (name : Text) (r : Request) : Action Response := do
  match r.level with
  | .error response => return response
  | .ok level =>
    match (← get).roster.get? name with
    | none => refuse (.notFound name)
    | some f =>
      return .of 200 (← row f (level <|> hostLevel settings) (r.version <|> settings.hostVersion))

/-- Why a name is refused, in the words of a report on one issue. -/
def blankReason (name : Text) : Text :=
  "1 validation error for FeatureDefinition\nname\n  " ++ Rejection.message .blankName
    ++ " [type=" ++ (IssueKind.rejected .blankName).code ++ ", input_value="
    ++ name.quoted.abridged ++ ", input_type=str]"

/-- **A flag replaced**, or defined if there is none of its name. -/
def replace (settings : Settings) (name : Text) (r : Request) : Action Response := do
  match r.read Replacement.decode with
  | .error response => return response
  | .ok replacement =>
    let kept := ((← get).roster.get? name).map (·.condition)
    let condition := (replacement.condition <|> kept).getD .unrestricted
    if Flag.validName name then
      let f : Flag := ⟨name, replacement.enabled, condition⟩
      let _ ← perform (.change (.update (.ok f)))
      return .of 200 (← hostRow settings f)
    else refuse (.invalid name (blankReason name))

/-- **A flag turned on or off**, whichever it is not. -/
def toggle (settings : Settings) (name : Text) : Action Response := do
  match (← get).roster.get? name with
  | none => refuse (.notFound name)
  | some f =>
    let g : Flag := { f with enabled := !f.enabled }
    let _ ← perform (.change (.update (.ok g)))
    note .info ("Toggled feature " ++ Record.named name ++ " from the debug panel")
    return .of 200 (← hostRow settings g)

/-- **Doing what a request calls for.**  A feed has no document. -/
def answer (settings : Settings) (r : Request) : Call → Action Response
  | .health => health settings
  | .list => list settings
  | .create => create settings r
  | .clear => clear
  | .read name => read settings name r
  | .replace name => replace settings name r
  | .toggle name => toggle settings name
  | .stream _ => return ⟨200, .nothing⟩

/-- **The response to a request**, whether it can be sent or not. -/
def reply (settings : Settings) (r : Request) : Action Response := do
  match Route.find r.method (Target.path r.target) with
  | .unknown => return .notFound
  | .wrongMethod => return .wrongMethod
  | .redirection => return .redirection
  | .call c => answer settings r c

/-- **Answering a request**; what was done stays done if the response cannot be sent. -/
def respond (settings : Settings) (r : Request) : Action Response := do
  let response ← reply settings r
  match response.body.send with
  | .ok _ => return response
  | .error u => throw (.unsendable u)

end Panel

end FeatureFlags

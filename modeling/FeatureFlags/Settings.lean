import FeatureFlags.Files.Path
import FeatureFlags.Flag.Decoding
import FeatureFlags.Log
import FeatureFlags.Number.Shortest
import FeatureFlags.Text.Case

/-!
# Settings — what the library and its panel are told about their host

Settings are made from values given by name.  Some are given by the caller, others by the
environment; the caller's win, names do not distinguish cases, and what neither gives has a default.
Of several values of one name the caller's first counts, and the environment's last.  If the caller's
names have to be in small letters, that is a special case: the others are left out.
All values are checked, and the issues are reported in the order of the settings.
-/

namespace FeatureFlags

/-- **The settings.** -/
structure Settings where
  appName : Text
  appVersion : Text
  debug : Bool
  logLevel : Severity
  cacheEnabled : Bool
  cachePath : Path
  platformLevel : Option Nat
  hostVersion : Option Text
  pollInterval : Binary64
deriving DecidableEq

namespace Settings

/-- A severity by its name, in either case and with blanks around it. -/
def decodeLevel (v : Json) : Checked Severity := do
  let name ← Reading.string v
  match Severity.ofName? name.trim.asciiUpper with
  | some s => .ok s
  | none => .fail (.rejected (.logLevel name))

/-- A path. -/
def decodePath : Json → Checked Path
  | .str t => .ok (.ofText t)
  | _ => .fail .pathType

/-- A level of the platform. -/
def decodePlatformLevel (v : Json) : Checked (Option Nat) := do
  match ← Reading.optional Reading.integer v with
  | none => .ok none
  | some (.ofNat n) => .ok (some n)
  | some (.negSucc _) => .fail (.rejected .negativePlatformLevel)

/-- An interval in seconds. -/
def decodeInterval (v : Json) : Checked Binary64 := do
  let x ← Reading.fraction v
  if x.atMostZero then .fail (.rejected .pollInterval) else .ok x

/-- **Settings from values given by name.** -/
def decode (given : List (Text × Json)) : Checked Settings :=
  let field {α : Type} (name : Text) (read : Json → Checked α) (absent : α) : Checked α :=
    Reading.defaulted name read absent given
  (Checked.both (field "app_name" Reading.string "FlagGate")
    (.both (field "app_version" Reading.string "0.1.0")
    (.both (field "debug" Reading.truth false)
    (.both (field "log_level" decodeLevel .info)
    (.both (field "cache_enabled" Reading.truth false)
    (.both (field "cache_path" decodePath (.ofText "flag_cache.json"))
    (.both (field "platform_level" decodePlatformLevel none)
    (.both (field "host_version" (Reading.optional Reading.string) none)
    (field "stream_poll_interval" decodeInterval (.ofRatio false 1 1)))))))))).map
    fun (appName, appVersion, debug, logLevel, cacheEnabled, cachePath, platformLevel, hostVersion,
        pollInterval) =>
      ⟨appName, appVersion, debug, logLevel, cacheEnabled, cachePath, platformLevel, hostVersion,
        pollInterval⟩

/-- Values by names in small letters. -/
def byName (values : List (Text × Json)) : List (Text × Json) :=
  values.map fun (name, v) => (name.lower, v)

/-- **Settings from the environment and the caller's values.** -/
def make (environment : List (Text × Text)) (overrides : List (Text × Json)) : Checked Settings :=
  decode (byName overrides ++ byName (environment.reverse.map fun (name, t) => (name, .str t)))

/-- The values of settings by name; the interval is given as a number. -/
def values (s : Settings) : List (Text × Json) :=
  [("app_name", .str s.appName), ("app_version", .str s.appVersion), ("debug", .bool s.debug),
    ("log_level", .str s.logLevel.name), ("cache_enabled", .bool s.cacheEnabled),
    ("cache_path", .str s.cachePath.toText),
    ("platform_level", .ofOption (fun n : Nat => .int n) s.platformLevel),
    ("host_version", .ofOption .str s.hostVersion),
    ("stream_poll_interval", .float s.pollInterval)]

end Settings

end FeatureFlags

import FeatureFlags.Proofs.Files.Path
import FeatureFlags.Proofs.Reading
import FeatureFlags.Settings

/-!
# Proofs/Settings — what is known of settings that were made

Each setting is what is stated for it: by the caller, else by the environment, else by its default
(`make_eq_ok_iff`).  So the values of settings that were made can be given again, and make the same
settings (`make_values`).  All is as documented, but for one value of the interval: it may be
no number (`make_documented_iff`).
-/

namespace FeatureFlags

/-- **Greater than zero.** -/
def Binary64.Positive : Binary64 → Prop
  | .nan => False
  | .infinite negative => negative = false
  | .finite negative m _ => negative = false ∧ m ≠ 0

instance : DecidablePred Binary64.Positive
  | .nan => inferInstanceAs (Decidable False)
  | .infinite negative => inferInstanceAs (Decidable (negative = false))
  | .finite negative m _ => inferInstanceAs (Decidable (negative = false ∧ m ≠ 0))

/-- What is not zero or less is greater, or no number. -/
theorem Binary64.atMostZero_eq_false_iff {x : Binary64} :
    x.atMostZero = false ↔ x.Positive ∨ x = .nan := by
  cases x <;> simp [atMostZero, Positive]

namespace Settings

variable {environment : List (Text × Text)} {overrides given : List (Text × Json)}
  {s : Settings} {v : Json}

/-! ## The value that counts -/

/-- **The value that counts for a name**: the first one that the caller gives, or else the last one
of the environment.  Names are compared in small letters. -/
def counted? (environment : List (Text × Text)) (overrides : List (Text × Json)) (name : Text) :
    Option Json :=
  ((overrides.find? (·.1.lower = name)).map (·.2)).or
    ((environment.reverse.find? (·.1.lower = name)).map fun x => .str x.2)

theorem lookup?_byName (name : Text) (values : List (Text × Json)) :
    Json.lookup? name (byName values) = (values.find? (·.1.lower = name)).map (·.2) := by
  induction values with
  | nil => rfl
  | cons x values ih =>
    rw [byName, List.map_cons, Json.lookup?, List.find?_cons]
    by_cases h : x.1.lower = name
    · rw [if_pos h, decide_eq_true h]
      rfl
    · rw [if_neg h, decide_eq_false h]
      exact ih

theorem lookup?_given (name : Text) :
    Json.lookup? name
        (byName overrides ++ byName (environment.reverse.map fun (name, t) => (name, .str t)))
      = counted? environment overrides name := by
  rw [Json.lookup?_append, lookup?_byName, lookup?_byName, List.find?_map, Option.map_map]
  rfl

/-! ## Names as they are -/

/-- The values whose names are in small letters. -/
def small (values : List (Text × Json)) : List (Text × Json) :=
  values.filter fun x => x.1.lower = x.1

/-- What is looked for under a name in small letters is found among these. -/
theorem lookup?_byName_small {name : Text} (h : name.lower = name) (values : List (Text × Json)) :
    Json.lookup? name (byName (small values)) = Json.lookup? name values := by
  induction values with
  | nil => rfl
  | cons x values ih =>
    obtain ⟨key, v⟩ := x
    rw [small, List.filter_cons, ← small, Json.lookup?]
    by_cases hkey : key.lower = key
    · have hhead : byName ((key, v) :: small values) = (key, v) :: byName (small values) :=
        congrArg (fun key' => (key', v) :: byName (small values)) hkey
      rw [if_pos (decide_eq_true hkey), hhead, Json.lookup?, ih]
    · have hne : key ≠ name := fun he => hkey (he ▸ h)
      rw [if_neg (by simpa using hkey), ih, if_neg hne]

/-- Settings are made of what is found under names in small letters. -/
theorem decode_congr (h : ∀ name : Text, name.lower = name →
    Json.lookup? name given = Json.lookup? name overrides) : decode given = decode overrides := by
  simp only [decode, Reading.defaulted, h "app_name" (by decide), h "app_version" (by decide),
    h "debug" (by decide), h "log_level" (by decide), h "cache_enabled" (by decide),
    h "cache_path" (by decide), h "platform_level" (by decide), h "host_version" (by decide),
    h "stream_poll_interval" (by decide)]

/-- **Comparing the caller's names as they are** comes to leaving out those that are not in small
letters.  So what holds of settings whatever the caller gives holds under that reading too. -/
theorem decode_exact (environment : List (Text × Text)) (overrides : List (Text × Json)) :
    decode (overrides ++ byName (environment.reverse.map fun (name, t) => (name, .str t)))
      = make environment (small overrides) := by
  refine decode_congr fun name hname => ?_
  rw [Json.lookup?_append, Json.lookup?_append, lookup?_byName_small hname]

/-! ## Settings as stated -/

/-- **A setting is what a value is read as**, or its default where no value counts. -/
def Sets {α : Type} (a : α) (counted : Option Json) (absent : α) (reads : Json → α → Prop) : Prop :=
  counted.elim (a = absent) (reads · a)

/-- What holds of the default and of all that is read, holds of the setting. -/
theorem Sets.elim {α : Type} {a absent : α} {counted : Option Json} {reads : Json → α → Prop}
    {P : α → Prop} (h : Sets a counted absent reads) (habsent : P absent)
    (hreads : ∀ v, counted = some v → reads v a → P a) : P a := by
  cases counted with
  | none => exact (show a = absent from h) ▸ habsent
  | some v => exact hreads v rfl h

/-- **Settings as they are stated.** -/
structure Stated (given : Text → Option Json) (s : Settings) : Prop where
  appName : Sets s.appName (given "app_name") "FlagGate" fun v t => v = .str t
  appVersion : Sets s.appVersion (given "app_version") "0.1.0" fun v t => v = .str t
  debug : Sets s.debug (given "debug") false fun v b => Reading.truth v = .ok b
  logLevel : Sets s.logLevel (given "log_level") .info
    fun v level => ∃ t, v = .str t ∧ t.trim.asciiUpper = level.name
  cacheEnabled : Sets s.cacheEnabled (given "cache_enabled") false
    fun v b => Reading.truth v = .ok b
  cachePath : Sets s.cachePath (given "cache_path") (.ofText "flag_cache.json")
    fun v path => ∃ t, v = .str t ∧ .ofText t = path
  platformLevel : Sets s.platformLevel (given "platform_level") none
    fun v level => (v = .null ∧ level = none) ∨
      ∃ n : Nat, Reading.integer v = .ok n ∧ level = some n
  hostVersion : Sets s.hostVersion (given "host_version") none
    fun v version => (v = .null ∧ version = none) ∨ ∃ t, v = .str t ∧ version = some t
  pollInterval : Sets s.pollInterval (given "stream_poll_interval") (.ofRatio false 1 1)
    fun v x => Reading.fraction v = .ok x ∧ (x.Positive ∨ x = .nan)

theorem decodeLevel_eq_ok_iff {level : Severity} :
    decodeLevel v = .ok level ↔ ∃ t, v = .str t ∧ t.trim.asciiUpper = level.name := by
  have hname (t : Text) : Severity.ofName? t = some level ↔ t = level.name := by
    refine ⟨fun h => ?_, fun h => h ▸ Severity.ofName?_name level⟩
    have hfound := List.find?_some h
    exact (of_decide_eq_true (p := level.name = t) hfound).symm
  rw [decodeLevel, bind_eq_ok_iff]
  simp only [Reading.string_eq_ok_iff]
  refine exists_congr fun t => and_congr_right fun _ => ?_
  rw [← hname]
  cases Severity.ofName? t.trim.asciiUpper with
  | none => exact iff_of_false nofun nofun
  | some s =>
    dsimp only
    rw [Except.ok.injEq, Option.some.injEq]

theorem decodePath_eq_ok_iff {path : Path} :
    decodePath v = .ok path ↔ ∃ t, v = .str t ∧ .ofText t = path := by
  cases v with
  | str t =>
    refine ⟨fun h => ⟨t, rfl, Except.ok.inj h⟩, ?_⟩
    rintro ⟨_, ⟨⟩, rfl⟩
    rfl
  | _ => exact iff_of_false nofun (by rintro ⟨_, ⟨⟩, _⟩)

theorem decodePlatformLevel_eq_ok_iff {level : Option Nat} :
    decodePlatformLevel v = .ok level ↔ (v = .null ∧ level = none) ∨
      ∃ n : Nat, Reading.integer v = .ok n ∧ level = some n := by
  have hnull (n : Int) : Reading.integer .null ≠ .ok n := nofun
  rw [decodePlatformLevel, bind_eq_ok_iff]
  simp only [Reading.optional_eq_ok_iff hnull]
  constructor
  · rintro ⟨_ | n, ⟨rfl, ⟨⟩⟩ | ⟨n, hn, ⟨⟩⟩, h⟩
    · exact .inl ⟨rfl, (Except.ok.inj h).symm⟩
    · cases n with
      | ofNat n => exact .inr ⟨n, hn, (Except.ok.inj h).symm⟩
      | negSucc n => cases h
  · rintro (⟨rfl, rfl⟩ | ⟨n, hn, rfl⟩)
    · exact ⟨none, .inl ⟨rfl, rfl⟩, rfl⟩
    · exact ⟨some n, .inr ⟨n, hn, rfl⟩, rfl⟩

theorem decodeInterval_eq_ok_iff {x : Binary64} : decodeInterval v = .ok x ↔
    Reading.fraction v = .ok x ∧ (x.Positive ∨ x = .nan) := by
  rw [decodeInterval, bind_eq_ok_iff]
  constructor
  · rintro ⟨y, hy, h⟩
    split at h
    · cases h
    · next hpositive =>
      cases h
      exact ⟨hy, Binary64.atMostZero_eq_false_iff.1 (Bool.eq_false_iff.2 hpositive)⟩
  · rintro ⟨hx, hpositive⟩
    refine ⟨x, hx, ?_⟩
    rw [Binary64.atMostZero_eq_false_iff.2 hpositive]
    rfl

/-- **Settings are made as they are stated**, and in no other way. -/
theorem make_eq_ok_iff :
    make environment overrides = .ok s ↔ Stated (counted? environment overrides) s := by
  have hnull (t : Text) : Reading.string .null ≠ .ok t := nofun
  rw [make, decode, map_eq_ok_iff]
  constructor
  · rintro ⟨⟨appName, appVersion, debug, logLevel, cacheEnabled, cachePath, platformLevel,
      hostVersion, pollInterval⟩, h, rfl⟩
    simp only [Checked.both_eq_ok_iff, Reading.defaulted_eq_ok_iff, lookup?_given,
      Reading.string_eq_ok_iff, decodeLevel_eq_ok_iff, decodePath_eq_ok_iff,
      decodePlatformLevel_eq_ok_iff, Reading.optional_eq_ok_iff hnull,
      decodeInterval_eq_ok_iff] at h
    obtain ⟨happName, happVersion, hdebug, hlogLevel, hcacheEnabled, hcachePath, hplatformLevel,
      hhostVersion, hpollInterval⟩ := h
    exact ⟨happName, happVersion, hdebug, hlogLevel, hcacheEnabled, hcachePath, hplatformLevel,
      hhostVersion, hpollInterval⟩
  · intro h
    refine ⟨(s.appName, s.appVersion, s.debug, s.logLevel, s.cacheEnabled, s.cachePath,
      s.platformLevel, s.hostVersion, s.pollInterval), ?_, rfl⟩
    simp only [Checked.both_eq_ok_iff, Reading.defaulted_eq_ok_iff, lookup?_given,
      Reading.string_eq_ok_iff, decodeLevel_eq_ok_iff, decodePath_eq_ok_iff,
      decodePlatformLevel_eq_ok_iff, Reading.optional_eq_ok_iff hnull,
      decodeInterval_eq_ok_iff]
    exact ⟨h.appName, h.appVersion, h.debug, h.logLevel, h.cacheEnabled, h.cachePath,
      h.platformLevel, h.hostVersion, h.pollInterval⟩

/-! ## Made again -/

/-- **Settings that can be made**: the path is in normal form, and the interval is not zero or
less. -/
structure Sound (s : Settings) : Prop where
  cachePath : s.cachePath.Normal
  pollInterval : s.pollInterval.Positive ∨ s.pollInterval = .nan

theorem Stated.sound {given : Text → Option Json} (h : Stated given s) : s.Sound where
  cachePath := h.cachePath.elim (Path.normal_ofText _) fun v _ ⟨t, _, ht⟩ =>
    ht ▸ Path.normal_ofText t
  pollInterval := h.pollInterval.elim (P := fun x => x.Positive ∨ x = .nan) (.inl (by decide))
    fun _ _ hread => hread.2

/-- An interval that is no number was read so. -/
theorem Stated.exists_of_nan {given : Text → Option Json} (h : Stated given s)
    (hnan : s.pollInterval = .nan) :
    ∃ v, given "stream_poll_interval" = some v ∧ Reading.fraction v = .ok .nan :=
  h.pollInterval.elim
    (P := fun x => x = .nan →
      ∃ v, given "stream_poll_interval" = some v ∧ Reading.fraction v = .ok .nan)
    (fun h => absurd h (by decide)) (fun v hv hread h => ⟨v, hv, h ▸ hread.1⟩) hnan

/-- What may be left out is read as it was written. -/
theorem reads_ofOption {α : Type} {W : α → Json} {R : Json → α → Prop} (h : ∀ a, R (W a) a)
    (o : Option α) : (Json.ofOption W o = .null ∧ o = none) ∨
      ∃ a, R (Json.ofOption W o) a ∧ o = some a := by
  cases o with
  | none => exact .inl ⟨rfl, rfl⟩
  | some a => exact .inr ⟨a, h a, rfl⟩

/-- The values of settings are the ones that count, whatever the environment is. -/
theorem stated_values (h : s.Sound) (environment : List (Text × Text)) :
    Stated (counted? environment s.values) s where
  appName := rfl
  appVersion := rfl
  debug := rfl
  logLevel := ⟨_, rfl, by cases s.logLevel <;> decide⟩
  cacheEnabled := rfl
  cachePath := ⟨_, rfl, Path.ofText_toText h.cachePath⟩
  platformLevel := reads_ofOption (R := fun v (n : Nat) => Reading.integer v = .ok n)
    (fun _ => rfl) s.platformLevel
  hostVersion := reads_ofOption (R := fun v t => v = .str t) (fun _ => rfl) s.hostVersion
  pollInterval := ⟨rfl, h.pollInterval⟩

/-- **Settings that were made are made again** of their values. -/
theorem make_values (h : make environment overrides = .ok s)
    (environment' : List (Text × Text)) : make environment' s.values = .ok s :=
  make_eq_ok_iff.2 (stated_values (make_eq_ok_iff.1 h).sound environment')

/-! ## Refusals -/

/-- **What is refused is refused for a reason.** -/
theorem told_make : (make environment overrides).Told := by
  have hlevel (v : Json) : (decodeLevel v).Single := by
    refine (Reading.single_string v).bind fun name => ?_
    split
    · exact .ok _
    · exact .fail _
  have hpath (v : Json) : (decodePath v).Single := by
    cases v with
    | str t => exact .ok _
    | _ => exact .fail _
  have hplatform (v : Json) : (decodePlatformLevel v).Single := by
    refine (Reading.single_optional Reading.single_integer v).bind fun level => ?_
    split
    · exact .ok _
    · exact .ok _
    · exact .fail _
  have hinterval (v : Json) : (decodeInterval v).Single :=
    (Reading.single_fraction v).bind fun x => .ite (.fail _) (.ok _)
  have hstring (v : Json) := (Reading.single_string v).told
  have htruth (v : Json) := (Reading.single_truth v).told
  have hversion (v : Json) := (Reading.single_optional Reading.single_string v).told
  exact .map (.both (Reading.told_defaulted hstring) (.both (Reading.told_defaulted hstring)
    (.both (Reading.told_defaulted htruth) (.both (Reading.told_defaulted fun v => (hlevel v).told)
    (.both (Reading.told_defaulted htruth) (.both (Reading.told_defaulted fun v => (hpath v).told)
    (.both (Reading.told_defaulted fun v => (hplatform v).told)
    (.both (Reading.told_defaulted hversion)
    (Reading.told_defaulted fun v => (hinterval v).told))))))))) _

theorem exists_issue (hno : ∀ s, make environment overrides ≠ .ok s) :
    ∃ issue issues, make environment overrides = .error (issue :: issues) := by
  cases hmake : make environment overrides with
  | ok s => exact absurd hmake (hno s)
  | error issues =>
    cases issues with
    | nil =>
      obtain ⟨s, hs⟩ := told_make (congrArg Checked.count hmake)
      exact absurd hs (hno s)
    | cons issue issues => exact ⟨issue, issues, rfl⟩

/-! ## What is documented -/

/-- **What is documented** of settings: those that are made have the name of a severity, a level of
the platform of zero or more, if any, and an interval greater than zero, and are made again of their
values.  All else is refused for a reason. -/
structure Documented (environment : List (Text × Text)) (overrides : List (Text × Json)) :
    Prop where
  logLevel : ∀ s, make environment overrides = .ok s →
    ∃ name, Json.lookup? "log_level" s.values = some (.str name) ∧
      name ∈ (["DEBUG", "INFO", "WARNING", "ERROR", "CRITICAL"] : List Text) ∧
      Severity.ofName? name = some s.logLevel
  platformLevel : ∀ s, make environment overrides = .ok s →
    Json.lookup? "platform_level" s.values = some .null ∨
      ∃ n : Int, 0 ≤ n ∧ Json.lookup? "platform_level" s.values = some (.int n)
  pollInterval : ∀ s, make environment overrides = .ok s →
    ∃ x : Binary64, Json.lookup? "stream_poll_interval" s.values = some (.float x) ∧ x.Positive
  again : ∀ s, make environment overrides = .ok s →
    ∀ environment', make environment' s.values = .ok s
  refused : (∀ s, make environment overrides ≠ .ok s) →
    ∃ issue issues, make environment overrides = .error (issue :: issues)

/-- **Settings are made as they are stated**, and all is as documented unless they are made with an
interval that is no number: only this is neither refused nor greater than zero. -/
theorem make_documented_iff (environment : List (Text × Text)) (overrides : List (Text × Json)) :
    (∀ s, make environment overrides = .ok s ↔ Stated (counted? environment overrides) s) ∧
    (Documented environment overrides ↔ ∀ s, make environment overrides = .ok s →
      ∀ v, counted? environment overrides "stream_poll_interval" = some v →
        Reading.fraction v ≠ .ok .nan) := by
  refine ⟨fun s => make_eq_ok_iff, fun h s hs v hv hnan => ?_, fun h => ⟨fun s hs => ?_,
    fun s hs => ?_, fun s hs => ⟨s.pollInterval, rfl, ?_⟩, fun s hs => make_values hs,
    fun hno => ?_⟩⟩
  · obtain ⟨x, hx, hpositive⟩ := h.pollInterval s hs
    have hread := (make_eq_ok_iff.1 hs).pollInterval
    rw [hv] at hread
    have hinterval : s.pollInterval = x := Json.float.inj (Option.some.inj hx)
    obtain rfl : .nan = x := (Except.ok.inj (hnan.symm.trans hread.1)).trans hinterval
    exact hpositive
  · exact ⟨s.logLevel.name, rfl, by cases s.logLevel <;> decide, Severity.ofName?_name _⟩
  · cases hlevel : s.platformLevel with
    | none => exact .inl (by rw [values, hlevel]; rfl)
    | some n => exact .inr ⟨n, Int.natCast_nonneg n, by rw [values, hlevel]; rfl⟩
  · have hstated := make_eq_ok_iff.1 hs
    refine hstated.sound.pollInterval.resolve_right fun hnan => ?_
    obtain ⟨v, hv, hread⟩ := hstated.exists_of_nan hnan
    exact h s hs v hv hread
  · exact exists_issue hno

/-- Values of the environment and of the caller, in several spellings. -/
theorem make_documented_spelled :
    let environment : List (Text × Text) :=
      [("LOG_LEVEL", "debug"), ("Platform_Level", " 1_000 "), ("log_level", " Warning\t")]
    let overrides : List (Text × Json) := [("stream_poll_interval", .str " 5e-324 ")]
    ∃ s, make environment overrides = .ok s ∧ s.logLevel = .warning ∧ s.platformLevel = some 1000 ∧
      s.pollInterval = .finite false 1 (-1074) ∧ Documented environment overrides := by
  intro environment overrides
  have hs : make environment overrides = .ok ⟨"FlagGate", "0.1.0", false, .warning, false,
      .ofText "flag_cache.json", some 1000, none, .finite false 1 (-1074)⟩ := by decide +kernel
  refine ⟨_, hs, rfl, rfl, rfl, (make_documented_iff environment overrides).2.2 ?_⟩
  rintro _ - _ ⟨⟩
  decide +kernel

/-- **An interval that is no number** is accepted. -/
theorem make_undocumented_nan : ¬ Documented [] [("stream_poll_interval", .str "nan")] := by
  intro h
  have hs : make [] [("stream_poll_interval", .str "nan")] = .ok ⟨"FlagGate", "0.1.0", false, .info,
      false, .ofText "flag_cache.json", none, none, .nan⟩ := by decide +kernel
  obtain ⟨x, hx, hpositive⟩ := h.pollInterval _ hs
  cases hx
  exact hpositive

end Settings

end FeatureFlags

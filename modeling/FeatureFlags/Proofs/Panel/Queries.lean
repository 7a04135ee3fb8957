import FeatureFlags.Proofs.Json.Sending
import FeatureFlags.Proofs.Panel.Addresses
import FeatureFlags.Proofs.Text.Natural
import Mathlib.Data.List.Forall2

/-!
# Proofs/Panel/Queries — asking for a flag with a level and a version

Behind the path of a request stand fields, each a name and a value that spells a text (`Fills`), and
what is looked up there is what was spelled (`query_withQuery`).  So a flag can be asked for with a
level and a version, or with one of them or neither, and its row answers for what was asked, and for
the host where nothing was (`outcome_respond_askingFor`).  A level of too many digits is refused.
-/

namespace FeatureFlags

/-! ## Fields -/

namespace Percent

/-- **The value of a field spells a text**: a plus sign is a space, and no ampersand stands for
itself. -/
inductive Fills : Text → Text → Prop
  | nil : Fills [] []
  | plain {c : Char} {x t : Text} (hc : Plain c) (hplus : c ≠ '+') (hseparator : c ≠ '&')
      (hx : Fills x t) : Fills (.scalar c :: x) (.scalar c :: t)
  | space {x t : Text} (hx : Fills x t) : Fills (.scalar '+' :: x) (.scalar ' ' :: t)
  | escaped {c : Char} {e x t : Text} (he : Escapes e (Utf8.encodeChar c)) (hx : Fills x t) :
      Fills (e ++ x) (.scalar c :: t)

variable {x t : Text}

/-- No ampersand stands in a value. -/
theorem Fills.notMem (h : Fills x t) : .scalar '&' ∉ x := by
  induction h with
  | nil => exact List.not_mem_nil
  | plain _ _ hseparator _ ih =>
    exact List.not_mem_cons_of_ne_of_not_mem
      (fun h => hseparator (CodePoint.scalar.inj h).symm) ih
  | space _ ih => exact List.not_mem_cons_of_ne_of_not_mem (by decide) ih
  | escaped he _ ih =>
    exact fun hmem => (List.mem_append.1 hmem).elim (he.notMem rfl (by decide)) ih

/-- Letters and digits spell themselves. -/
theorem fills_of_isAlphanum {cs : List Char} (h : cs.all Char.isAlphanum) :
    Fills (.ofChars cs) (.ofChars cs) := by
  induction cs with
  | nil => exact .nil
  | cons c cs ih =>
    obtain ⟨hc, hcs⟩ := Bool.and_eq_true_iff.1 h
    refine .plain (.inl hc) ?_ ?_ (ih hcs)
    all_goals
      rintro rfl
      cases hc

theorem octets_of_fills (h : Fills x t) : ∃ cs, t = .ofChars cs ∧
    octets (x.map fun c => if c = .scalar '+' then .scalar ' ' else c) = Utf8.encode cs := by
  induction h with
  | nil => exact ⟨[], rfl, rfl⟩
  | @plain c x t hc hplus _ _ ih =>
    obtain ⟨cs, rfl, hcs⟩ := ih
    refine ⟨c :: cs, rfl, ?_⟩
    rw [List.map_cons, if_neg fun h => hplus (CodePoint.scalar.inj h),
      octets_cons_of_ne (hc.ne (by decide)), hcs]
    rfl
  | @space x t _ ih =>
    obtain ⟨cs, rfl, hcs⟩ := ih
    refine ⟨' ' :: cs, rfl, ?_⟩
    rw [List.map_cons, if_pos rfl, octets_cons_of_ne (by decide), hcs]
    rfl
  | @escaped c e x t he _ ih =>
    obtain ⟨cs, rfl, hcs⟩ := ih
    have hplus : ∀ c ∈ e, (if c = .scalar '+' then .scalar ' ' else c) = c := fun c hc =>
      if_neg fun heq => he.notMem rfl (by decide) (heq ▸ hc)
    refine ⟨c :: cs, rfl, ?_⟩
    rw [List.map_append, List.map_congr_left hplus, List.map_id', octets_append_of_escapes he, hcs]
    rfl

end Percent

namespace Target

open Percent

variable {target x t : Text} {raw fields : List (Text × Text)}

/-- **A part of a query is decoded to what it spells.** -/
theorem component_of_fills (h : Fills x t) : component x = t := by
  obtain ⟨cs, rfl, hcs⟩ := octets_of_fills h
  rw [component, decode, hcs, Utf8.decodeLossy_encode]

/-- A field as it is written, before its parts are decoded. -/
def writeField (f : Text × Text) : Text := f.1 ++ .scalar '=' :: f.2

/-- **A target with fields**, as they are written. -/
def withQuery (target : Text) (raw : List (Text × Text)) : Text :=
  if raw.isEmpty then target else target ++ .scalar '?' :: Text.join "&" (raw.map writeField)

/-- **A written field stands for a field**: each part spells the part it stands for, and the name
has no equals sign in it. -/
structure Stands (f g : Text × Text) : Prop where
  name : Fills f.1 g.1
  equals : .scalar '=' ∉ f.1
  value : Fills f.2 g.2

variable {f g : Text × Text}

theorem Stands.field (h : Stands f g) : field (writeField f) = g := by
  rw [Target.field, writeField, Text.cut?_append_cons h.equals]
  exact Prod.ext (component_of_fills h.name) (component_of_fills h.value)

theorem Stands.notMem (h : Stands f g) : .scalar '&' ∉ writeField f := fun hmem =>
  (List.mem_append.1 hmem).elim h.name.notMem
    (List.not_mem_cons_of_ne_of_not_mem (by decide) h.value.notMem)

theorem writeField_ne_nil (f : Text × Text) : writeField f ≠ [] :=
  List.append_ne_nil_of_right_ne_nil _ (List.cons_ne_nil _ _)

/-- A target has the path that it has without fields. -/
theorem path_withQuery (h : .scalar '?' ∉ target) (raw : List (Text × Text)) :
    path (withQuery target raw) = path target := by
  rw [withQuery]
  split
  · rfl
  · rw [path, path, Text.cut?_append_cons h, Text.cut?_of_notMem h]
    rfl

theorem notMem_of_stands (h : List.Forall₂ Stands raw fields) :
    ∀ t ∈ raw.map writeField, .scalar '&' ∉ t := by
  induction h with
  | nil => exact List.forall_mem_nil _
  | cons hf _ ih => exact List.forall_mem_cons.2 ⟨hf.notMem, ih⟩

theorem map_field_of_stands (h : List.Forall₂ Stands raw fields) :
    (raw.map writeField).map Target.field = fields := by
  induction h with
  | nil => rfl
  | cons hf _ ih => rw [List.map_cons, List.map_cons, hf.field, ih]

/-- **The fields that are read are those that were written.** -/
theorem query_withQuery (htarget : .scalar '?' ∉ target) (h : List.Forall₂ Stands raw fields) :
    query (withQuery target raw) = fields.reverse := by
  by_cases hne : raw = []
  · subst hne
    cases h
    have hbare : withQuery target [] = target := rfl
    rw [hbare, query, Text.cut?_of_notMem htarget]
    rfl
  · have hsplit : List.splitOn (.scalar '&') (Text.join "&" (raw.map writeField))
        = raw.map writeField := by
      rw [Text.join_eq_intercalate]
      exact List.splitOn_intercalate (CodePoint.scalar '&') (notMem_of_stands h)
        (mt List.map_eq_nil_iff.1 hne)
    have hkept : (raw.map writeField).filter (fun t => !t.isEmpty) = raw.map writeField := by
      refine List.filter_eq_self.2 fun t ht => ?_
      obtain ⟨f, -, rfl⟩ := List.mem_map.1 ht
      simpa using writeField_ne_nil f
    rw [withQuery, if_neg (by simpa using hne), query, Text.cut?_append_cons htarget]
    change ((List.filter _ (List.splitOn _ (Text.join "&" (raw.map writeField)))).map _).reverse = _
    rw [hsplit, hkept, map_field_of_stands h]

end Target

/-! ## Asking with a level and a version -/

namespace Panel

open Switchboard Percent

variable {settings : Settings} {r : Request} {s : Switchboard} {f : Flag} {v : Json} {x : Text}
variable {level : Option Nat} {version : Option Text} {y z : Option Text} {body : List UInt8}

/-- **A request for a flag with a level and a version**, or with one of them or neither: its name,
the level and the version are given as they are spelled. -/
def askingFor (x : Text) (y z : Option Text) (body : List UInt8) : Request :=
  ⟨"GET", Target.withQuery (.ofChars flagPath ++ x)
    ((y.map (("level" : Text), ·)).toList ++ (z.map (("version" : Text), ·)).toList), body⟩

theorem stands_toList {name : Text} {y t : Option Text} (hname : Fills name name)
    (hequals : .scalar '=' ∉ name) (h : Option.Rel Fills y t) :
    List.Forall₂ Target.Stands (y.map (name, ·)).toList (t.map (name, ·)).toList := by
  cases h with
  | none => exact .nil
  | some h => exact .cons ⟨hname, hequals, h⟩ .nil

/-- The fields of a request for a flag. -/
theorem query_askingFor {level : Option Text} (hx : Spells x f.name) (hy : Option.Rel Fills y level)
    (hz : Option.Rel Fills z version) : Target.query (askingFor x y z body).target
      = ((level.map (("level" : Text), ·)).toList
        ++ (version.map (("version" : Text), ·)).toList).reverse := by
  refine Target.query_withQuery (Target.notMem_append_of_spells (by decide) hx)
    (List.rel_append ?_ ?_)
  · exact stands_toList (fills_of_isAlphanum rfl) (by decide) hy
  · exact stands_toList (fills_of_isAlphanum rfl) (by decide) hz

/-- What is looked up in a request for a flag is what was spelled. -/
theorem value?_askingFor {level : Option Text} (hx : Spells x f.name)
    (hy : Option.Rel Fills y level) (hz : Option.Rel Fills z version) :
    Target.value? "level" (askingFor x y z body).target = level ∧
      Target.value? "version" (askingFor x y z body).target = version := by
  rw [Target.value?, Target.value?, query_askingFor hx hy hz]
  cases level <;> cases version <;> exact ⟨rfl, rfl⟩

theorem path_askingFor (hx : Spells x f.name) :
    Target.path (askingFor x y z body).target = .ofChars flagPath ++ f.name := by
  rw [askingFor, Target.path_withQuery (Target.notMem_append_of_spells (by decide) hx)]
  exact Target.path_append_of_spells (by decide) (by decide) hx

/-- The version in a request for a flag. -/
theorem version_askingFor {level : Option Text} (hx : Spells x f.name)
    (hy : Option.Rel Fills y level) (hz : Option.Rel Fills z version) :
    (askingFor x y z body).version = version := (value?_askingFor hx hy hz).2

/-- **The level in a request for a flag**, if its digits are not too many. -/
theorem level_askingFor (hx : Spells x f.name) (hy : Option.Rel Fills y (level.map Text.ofNat))
    (hz : Option.Rel Fills z version) (hlevel : ∀ n ∈ level, Numeral.Short n) :
    (askingFor x y z body).level = .ok (level.map Int.ofNat) := by
  rw [Request.level, (value?_askingFor hx hy hz).1]
  cases level with
  | none => rfl
  | some n =>
    have hread : Request.levelOfText (Text.ofNat n) = .ok n := by
      rw [Request.levelOfText, Reading.integerOfText_ofNat (hlevel n rfl)]
      exact if_neg (by omega)
    dsimp only [Option.map]
    rw [hread]
    rfl

theorem route_askingFor (hx : Spells x f.name) (hname : f.name ≠ [])
    (hslash : .scalar '/' ∉ f.name) :
    Route.find (askingFor x y z body).method (Target.path (askingFor x y z body).target)
      = .call (.read f.name) := by
  rw [path_askingFor hx]
  exact find_get_of_notMem hname hslash

/-- **Asking for a flag with a level and a version**: its row, where the host counts for what is not
asked. -/
theorem outcome_respond_askingFor (hx : Spells x f.name)
    (hy : Option.Rel Fills y (level.map Text.ofNat)) (hz : Option.Rel Fills z version)
    (hname : f.name ≠ []) (hslash : .scalar '/' ∉ f.name) (hlevel : ∀ n ∈ level, Numeral.Short n)
    (hf : s.roster.get? f.name = some f)
    (hv : Shows (level.map Int.ofNat <|> hostLevel settings) (version <|> settings.hostVersion)
      f f v) (hsend : v.send.isOk) :
    outcome (respond settings (askingFor x y z body)) s = .ok (.of 200 v) := by
  refine outcome_respond_read (route_askingFor hx hname hslash) (level_askingFor hx hy hz hlevel) hf
    ?_ hsend
  rw [version_askingFor hx hy hz]
  exact hv

/-! ## A level of too many digits -/

/-- What is reported of a level that is refused for its size. -/
def oversizedLevel (t : Text) : Report :=
  .within "query" (.obj [("level", .str t)]) ⟨[.field "level"], .intParsingSize⟩

theorem send_oversizedLevel {t : Text} (h : t.Encodable) :
    (Body.reports [oversizedLevel t]).send.isOk := by
  have hstrings : (Body.detail (.arr [(oversizedLevel t).toJson])).shown.strings
      = (["detail", "type", "int_parsing_size", "loc", "query", "level", "msg",
        "Unable to parse input string as an integer, exceeded maximum size",
        "input"].map Text.ofString) ++ [t] := rfl
  refine Json.sendReport_isOk rfl ?_
  change ∀ u ∈ (Body.detail (.arr [(oversizedLevel t).toJson])).shown.strings, u.Encodable
  rw [hstrings]
  refine List.forall_mem_append.2 ⟨fun u hu => ?_, List.forall_mem_singleton.2 h⟩
  obtain ⟨word, -, rfl⟩ := List.mem_map.1 hu
  exact Text.encodable_ofString word

/-- **A level of too many digits is refused.** -/
theorem outcome_respond_oversized {n : Nat} (hx : Spells x f.name)
    (hy : Option.Rel Fills y (some (Text.ofNat n))) (hz : Option.Rel Fills z version)
    (hname : f.name ≠ []) (hslash : .scalar '/' ∉ f.name) (hn : ¬ Numeral.Short n) :
    outcome (respond settings (askingFor x y z body)) s
      = .ok (.refusal [oversizedLevel (Text.ofNat n)]) := by
  have hlevel : (askingFor x y z body).level
      = .error (.refusal [oversizedLevel (Text.ofNat n)]) := by
    have hread : Request.levelOfText (Text.ofNat n) = .error .intParsingSize := by
      rw [Request.levelOfText, Reading.integerOfText_ofNat_of_not_short hn]
    rw [Request.level, (value?_askingFor hx hy hz).1]
    dsimp only
    rw [hread]
    rfl
  have hread : (answer settings (askingFor x y z body) (.read f.name)).run s
      = (.ok (.refusal [oversizedLevel (Text.ofNat n)]), s) := by
    rw [answer, read, hlevel]
    rfl
  exact congrArg Prod.fst (run_respond (route_askingFor hx hname hslash) hread
    (send_oversizedLevel (Text.encodable_ofNat n)))

end Panel

end FeatureFlags

import FeatureFlags.Proofs.Flag.Loading
import FeatureFlags.Proofs.Panel.Bodies
import FeatureFlags.Proofs.Panel.Eligibility
import FeatureFlags.Proofs.Panel.Percent

/-!
# Proofs/Panel/Addresses — which flags can be asked for by their names

A flag is asked for under its name, spelled as the last segment of a path.  The path is decoded
before its segments are told apart, so a name without a slash is the segment it was meant to be
(`find_get_of_notMem`), and one with a slash asks for nothing or for the feed of another flag
(`exists_stream_of_mem`).  A flag that is defined may have a slash in its name, and then it cannot
be asked for (`created_addressed_iff`).
-/

namespace FeatureFlags

namespace Panel

open Switchboard

variable {settings : Settings} {r : Request} {response : Response} {s s' : Switchboard}
variable {level : Option Int} {version : Option Text} {f g : Flag} {v : Json} {name x : Text}

/-! ## Routes to a flag -/

/-- What stands before the name of a flag in a path. -/
def flagPath : List Char := "/api/features/".toList

theorem ofPath?_flagPath (t : Text) :
    Resource.ofPath? (.ofChars flagPath ++ t) = Resource.below t := by
  have hhealth : Resource.isWord "/health" (.ofChars flagPath ++ t) = false := rfl
  have hflags : Resource.isWord "/api/features" (.ofChars flagPath ++ t) = false := by
    cases t <;> rfl
  have hafter : (Text.ofChars flagPath ++ t).after? "/api/features/" = some t :=
    Text.after?_eq_some_iff.2 rfl
  rw [Resource.ofPath?, hhealth, hflags, hafter]
  rfl

/-- A name without a slash is the name of a flag. -/
theorem find_get_of_notMem (hname : name ≠ []) (h : .scalar '/' ∉ name) :
    Route.find "GET" (.ofChars flagPath ++ name) = .call (.read name) := by
  have hbelow : Resource.below name = some (.flag name) := by
    rw [Resource.below, Text.cut?_of_notMem h]
    exact if_neg fun hempty => hname (List.isEmpty_iff.1 hempty)
  rw [Route.find, ofPath?_flagPath, hbelow]
  rfl

/-- What stands behind a slash may only be something about a flag. -/
theorem below_of_mem (h : .scalar '/' ∈ name) : Resource.below name = none ∨
    ∃ shorter, Resource.below name = some (.toggle shorter) ∨
      Resource.below name = some (.stream shorter) := by
  obtain ⟨shorter, rest, rfl, hshorter⟩ := List.eq_append_cons_of_mem h
  rw [Resource.below, Text.cut?_append_cons hshorter]
  dsimp only
  split
  · exact .inl rfl
  split
  · exact .inr ⟨shorter, .inl rfl⟩
  split
  · exact .inr ⟨shorter, .inr rfl⟩
  · exact .inl rfl

/-- **A name with a slash** is never the name of a flag: if it leads to a call at all, this is the
feed of a flag with a shorter name. -/
theorem exists_stream_of_mem {c : Call} (hname : .scalar '/' ∈ name)
    (h : Route.find "GET" (.ofChars flagPath ++ name) = .call c) :
    ∃ shorter, c = .stream shorter := by
  rw [Route.find, ofPath?_flagPath] at h
  rcases below_of_mem hname with hbelow | ⟨shorter, hbelow | hbelow⟩ <;> rw [hbelow] at h
  · dsimp only at h
    split at h <;> cases h
  · cases h
  · cases h
    exact ⟨shorter, rfl⟩

/-! ## Asking for a flag -/

/-- **The request for a flag**, whose name is spelled; its body does not matter. -/
def asking (x : Text) (body : List UInt8) : Request := ⟨"GET", .ofChars flagPath ++ x, body⟩

theorem path_asking (h : Percent.Spells x name) (body : List UInt8) :
    Target.path (asking x body).target = .ofChars flagPath ++ name :=
  Target.path_append_of_spells (by decide) (by decide) h

/-- What is asked for by a name with a slash is no document. -/
theorem ne_of_respond_asking {body : List UInt8} (hx : Percent.Spells x name)
    (hname : .scalar '/' ∈ name)
    (h : (respond settings (asking x body)).run s = (.ok response, s')) :
    response ≠ .of 200 v := by
  have hreply := (run_reply_of_respond h).1
  rw [reply, path_asking hx] at hreply
  cases hroute : Route.find "GET" (.ofChars flagPath ++ name) with
  | call c =>
    obtain ⟨shorter, rfl⟩ := exists_stream_of_mem hname hroute
    rw [asking, hroute] at hreply
    obtain ⟨rfl, -⟩ := run_pure_eq_ok hreply
    intro heq
    cases heq
  | _ =>
    rw [asking, hroute] at hreply
    obtain ⟨rfl, -⟩ := run_pure_eq_ok hreply
    intro heq
    cases heq

/-! ## Asking for a flag that is there -/

/-- **Reading a flag that is there**: its row for the level and the version that are asked for, or
those of the host, if the row can be sent. -/
theorem outcome_respond_read
    (hroute : Route.find r.method (Target.path r.target) = .call (.read f.name))
    (hlevel : r.level = .ok level) (hf : s.roster.get? f.name = some f)
    (hv : Shows (level <|> hostLevel settings) (r.version <|> settings.hostVersion) f f v)
    (hsend : v.send.isOk) : outcome (respond settings r) s = .ok (.of 200 v) := by
  have hrow : outcome (row f (level <|> hostLevel settings) (r.version <|> settings.hostVersion)) s
      = .ok v := outcome_row_of_shows hf hv
  have hread : outcome (read settings f.name r) s = .ok (.of 200 v) := by
    rw [read, hlevel]
    dsimp only
    rw [outcome_get_bind, hf]
    dsimp only
    rw [outcome_bind, hrow]
    rfl
  have hanswer : (answer settings r (.read f.name)).run s
      = (.ok (.of 200 v), after (read settings f.name r) s) := Prod.ext hread rfl
  exact congrArg Prod.fst (run_respond hroute hanswer hsend)

/-- **Asking for a flag that is there**: its row, if it can be sent. -/
theorem outcome_respond_asking {body : List UInt8} (hx : Percent.Spells x f.name)
    (hname : f.name ≠ []) (hslash : .scalar '/' ∉ f.name) (hf : s.roster.get? f.name = some f)
    (hv : Shows (hostLevel settings) settings.hostVersion f f v) (hsend : v.send.isOk) :
    outcome (respond settings (asking x body)) s = .ok (.of 200 v) := by
  have hlevel : (asking x body).level = .ok none := by
    rw [Request.level, asking, Target.value?_append_of_spells (by decide) hx]
  have hversion : (asking x body).version = none :=
    Target.value?_append_of_spells (by decide) hx "version"
  refine outcome_respond_read ?_ hlevel hf (by rw [hversion]; exact hv) hsend
  rw [path_asking hx]
  exact find_get_of_notMem hname hslash

/-! ## Asking for a flag that was defined -/

theorem get?_insert (h : s.roster.get? f.name = none) :
    (s.roster.insert f).get? f.name = some f := by
  rw [Roster.get?, Roster.insert, List.find?_append, ← Roster.get?, h, Option.none_or]
  exact List.find?_cons_of_pos (decide_eq_true (rfl : f.name = f.name))

/-- A flag that is read has a name. -/
theorem name_ne_nil_of_read {notObject : IssueKind} (h : r.read (Flag.decode notObject) = .ok f) :
    f.name ≠ [] := by
  obtain ⟨v, -, hv⟩ := exists_decode_of_read h
  intro hname
  have hvalid := Flag.validName_of_decode hv
  rw [hname] at hvalid
  cases hvalid

/-- **What defining a flag leaves and answers.** -/
theorem exists_of_create (hread : r.read (Flag.decode .modelAttributesType) = .ok f)
    (hnew : s.roster.get? f.name = none)
    (h : (create settings r).run s = (.ok response, s')) :
    ∃ v, response = .of 201 v ∧ s'.roster.get? f.name = some f ∧
      Shows (hostLevel settings) settings.hostVersion f f v := by
  rw [create, hread] at h
  obtain ⟨a, t, ha, h⟩ := run_bind_eq_ok h
  obtain ⟨v, t', hv, h⟩ := run_bind_eq_ok h
  obtain ⟨rfl, rfl⟩ := run_pure_eq_ok h
  have ht : t.roster = s.roster.insert f := by cases ha; rfl
  have hf : t.roster.get? f.name = some f := by rw [ht, get?_insert hnew]
  obtain ⟨hshows, hroster⟩ := run_row hf hv
  exact ⟨v, rfl, by rw [hroster, hf], hshows⟩

/-- A text that is sent has characters only. -/
theorem exists_chars_of_send {t : Text} (h : v.send.isOk) (ht : t ∈ v.strings) :
    ∃ cs, t = .ofChars cs := by
  unfold Json.send at h
  cases hstrings : (v.strings.forM fun t => do
      let _ ← (Utf8.characters t).mapError Json.Unsendable.text) with
  | error => rw [hstrings] at h; cases h
  | ok =>
    have hsent := forall_of_forM_eq_ok hstrings t ht
    cases hchars : Utf8.characters t with
    | error => rw [hchars] at hsent; cases hsent
    | ok cs => exact ⟨cs, Utf8.characters_eq_ok_iff.1 hchars⟩

/-- **A flag that was defined can be asked for just if its name has no slash.**  Where a request
defines the first flag of a name, the answer is a row that shows it; its name has a spelling, and
with any spelling of it this row is what asking for the flag gives, or no row is. -/
theorem created_addressed_iff
    (hroute : Route.find r.method (Target.path r.target) = .call .create)
    (hread : r.read (Flag.decode .modelAttributesType) = .ok f)
    (hnew : s.roster.get? f.name = none)
    (h : (respond settings r).run s = (.ok response, s')) :
    ∃ v, response = .of 201 v ∧ Shows (hostLevel settings) settings.hostVersion f f v ∧
      Percent.Spells (Percent.encode f.name) f.name ∧
      ∀ x body w, Percent.Spells x f.name →
        (outcome (respond settings (asking x body)) s' = .ok (.of 200 w) ↔
          .scalar '/' ∉ f.name ∧ w = v) := by
  obtain ⟨v, rfl, hf, hshows⟩ := exists_of_create hread hnew (run_answer_of_respond hroute h)
  have hsend : v.send.isOk := (run_reply_of_respond h).2
  have hname : f.name ≠ [] := name_ne_nil_of_read hread
  obtain ⟨cs, hcs⟩ : ∃ cs, f.name = .ofChars cs := by
    obtain ⟨e, rfl, -⟩ := hshows
    exact exists_chars_of_send hsend (List.mem_cons_of_mem _ List.mem_cons_self)
  refine ⟨v, rfl, hshows, by rw [hcs]; exact Percent.spells_encode cs, fun x body w hx => ?_⟩
  constructor
  · intro hw
    have hslash : .scalar '/' ∉ f.name := fun hmem =>
      ne_of_respond_asking hx hmem (Prod.ext hw rfl) rfl
    rw [outcome_respond_asking hx hname hslash hf hshows hsend] at hw
    cases hw
    exact ⟨hslash, rfl⟩
  · rintro ⟨hslash, rfl⟩
    exact outcome_respond_asking hx hname hslash hf hshows hsend

/-! ## A name without a slash and one with a slash -/

/-- **Defining a flag** where there was none of its name. -/
theorem run_defining (h : f.Keepable) (hnew : s.roster.get? f.name = none)
    (hv : Shows (hostLevel settings) settings.hostVersion f f v) (hsend : v.send.isOk) :
    (respond settings (defining f)).run s
      = (.ok (.of 201 v), after (create settings (defining f)) s) := by
  refine run_respond (route_defining f) (Prod.ext ?_ rfl) hsend
  obtain ⟨_, hsaved⟩ : ∃ a, outcome (perform (.change (.save (.ok f)))) s = .ok a := ⟨_, rfl⟩
  have hroster : (after (perform (.change (.save (.ok f)))) s).roster = s.roster.insert f := rfl
  have hf : (after (perform (.change (.save (.ok f)))) s).roster.get? f.name = some f := by
    rw [hroster, get?_insert hnew]
  change outcome (create settings (defining f)) s = _
  rw [create, read_defining h]
  dsimp only
  rw [outcome_bind, hsaved]
  dsimp only
  rw [hostRow, outcome_bind, outcome_row_of_shows hf hv]
  rfl

/-- A flag whose name has to be escaped. -/
def escapedFlag : Flag := ⟨"Café?", true, ⟨["<5"], []⟩⟩

/-- A flag whose name has a slash. -/
def slashedFlag : Flag := ⟨"a/b", true, ⟨["<5"], []⟩⟩

theorem spells_escaped : Percent.Spells "Caf%c3%A9%3F" escapedFlag.name := by
  have he : Utf8.encodeChar 'é' = [0xC3, 0xA9] := by decide
  have hmark : Utf8.encodeChar '?' = [0x3F] := by decide
  have heAcute : Percent.Escapes "%c3%A9" (Utf8.encodeChar 'é') := by
    rw [he]
    exact .cons (h := 12) (l := 3) rfl rfl (.cons (h := 10) (l := 9) rfl rfl .nil)
  have hquestion : Percent.Escapes "%3F" (Utf8.encodeChar '?') := by
    rw [hmark]
    exact .cons (h := 3) (l := 15) rfl rfl .nil
  exact .plain (.inl rfl) (.plain (.inl rfl) (.plain (.inl rfl)
    (.escaped heAcute (.escaped hquestion .nil))))

/-- The row of a flag that is for hosts below level 5, on a host of level 10. -/
def newHostRow (f : Flag) : Json := rowOf f ⟨some false, none⟩

theorem created_addressed_escaped : ∃ s',
    (respond hostOfTen (defining escapedFlag)).run (ofRoster [])
      = (.ok (.of 201 (newHostRow escapedFlag)), s') ∧
    outcome (respond hostOfTen (asking "Caf%c3%A9%3F" [])) s'
      = .ok (.of 200 (newHostRow escapedFlag)) := by
  have hkept : escapedFlag.Keepable := .of_chars (by decide) (by decide)
  have hshows : Shows (hostLevel hostOfTen) hostOfTen.hostVersion escapedFlag escapedFlag
      (newHostRow escapedFlag) := ⟨_, rfl, rfl, rfl⟩
  have hrun := run_defining (s := ofRoster []) hkept rfl hshows (by decide +kernel)
  refine ⟨_, hrun, ?_⟩
  obtain ⟨v, hresponse, -, -, hasking⟩ :=
    created_addressed_iff (route_defining _) (read_defining hkept) rfl hrun
  have hrow : newHostRow escapedFlag = v := by cases hresponse; rfl
  exact (hasking _ _ _ spells_escaped).2 ⟨by decide, hrow⟩

/-- **A flag that cannot be asked for**: it was defined, and under its name nothing is found. -/
theorem created_not_found : ∃ s',
    (respond hostOfTen (defining slashedFlag)).run (ofRoster [])
      = (.ok (.of 201 (newHostRow slashedFlag)), s') ∧
    Percent.Spells "a%2Fb" slashedFlag.name ∧
    outcome (respond hostOfTen (asking "a%2Fb" [])) s' = .ok .notFound := by
  have hkept : slashedFlag.Keepable := .of_chars (by decide) (by decide)
  have hshows : Shows (hostLevel hostOfTen) hostOfTen.hostVersion slashedFlag slashedFlag
      (newHostRow slashedFlag) := ⟨_, rfl, rfl, rfl⟩
  have hrun := run_defining (s := ofRoster []) hkept rfl hshows (by decide +kernel)
  have hslash : Utf8.encodeChar '/' = [0x2F] := by decide
  have hescape : Percent.Escapes "%2F" (Utf8.encodeChar '/') := by
    rw [hslash]
    exact .cons (h := 2) (l := 15) rfl rfl .nil
  refine ⟨_, hrun, .plain (.inl rfl) (.escaped hescape (.plain (.inl rfl) .nil)), ?_⟩
  have hroute : Route.find "GET" (Target.path (.ofChars flagPath ++ "a%2Fb")) = .unknown := by
    decide +kernel
  rw [respond, reply, asking, hroute]
  rfl

end Panel

end FeatureFlags

import FeatureFlags.Proofs.Json.Escape
import FeatureFlags.Proofs.Json.Printable
import Mathlib.Data.List.Forall2

/-!
# Proofs/Json/ReadBack — what is written is read back

A value that is written can be read wherever it stands (`ReadsAs`): strings with their surrogates
paired, whole numbers as they are, binary fractions as some binary fraction, arrays item by item,
and objects field by field, a later field of a name overwriting an earlier one.  Every value within
the reader's limits is read back (`exists_readsAs`).
-/

namespace FeatureFlags

open Json.Parser

namespace Json

/-! ## Limits -/

mutual

/-- **How deep a value is nested**; what is neither an array nor an object is not. -/
def nesting : Json → Nat
  | .arr vs => nestingOfItems vs + 1
  | .obj fields => nestingOfFields fields + 1
  | _ => 0

/-- How deep items are nested. -/
def nestingOfItems : List Json → Nat
  | [] => 0
  | v :: vs => max (nesting v) (nestingOfItems vs)

/-- How deep the values of fields are nested. -/
def nestingOfFields : List (Text × Json) → Nat
  | [] => 0
  | (_, v) :: fields => max (nesting v) (nestingOfFields fields)

end

mutual

/-- **Whether every whole number in a value is within the limit** of digits. -/
def isShort : Json → Bool
  | .int z => (Nat.toDigits 10 z.natAbs).length ≤ Numeral.digitLimit
  | .arr vs => areShort vs
  | .obj fields => areShortFields fields
  | _ => true

/-- Whether every whole number in items is within the limit. -/
def areShort : List Json → Bool
  | [] => true
  | v :: vs => isShort v && areShort vs

/-- Whether every whole number in fields is within the limit. -/
def areShortFields : List (Text × Json) → Bool
  | [] => true
  | (_, v) :: fields => isShort v && areShortFields fields

end

/-! ## Reading a value wherever it stands -/

/-- **A value is read as another one**, wherever it is written: with so many levels of nesting
allowed, and with fuel for each character. -/
def ReadsAs (levels : Nat) (v w : Json) : Prop :=
  ∀ fuel depth rest, (render v).length ≤ fuel → levels ≤ depth → Stops rest →
    value fuel depth (Text.ofChars (render v) ++ rest) = .ok (w, rest)

variable {levels levels' fuel depth : Nat} {v w : Json} {s rest : Text} {negative : Bool}

theorem ReadsAs.mono (h : ReadsAs levels v w) (hl : levels ≤ levels') : ReadsAs levels' v w :=
  fun fuel depth rest hfuel hdepth => h fuel depth rest hfuel (Nat.le_trans hl hdepth)

/-- Every value is written with one character at least, so there is fuel for it. -/
theorem readsAs_of_succ (hne : render v ≠ [])
    (h : ∀ fuel depth rest, levels ≤ depth → Stops rest → (render v).length ≤ fuel + 1 →
      value (fuel + 1) depth (Text.ofChars (render v) ++ rest) = .ok (w, rest)) :
    ReadsAs levels v w := by
  intro fuel depth rest hfuel hdepth hrest
  obtain ⟨fuel, rfl⟩ : ∃ k, fuel = k + 1 :=
    Nat.exists_eq_succ_of_ne_zero
      (Nat.ne_of_gt (Nat.lt_of_lt_of_le (List.length_pos_iff.2 hne) hfuel))
  exact h fuel depth rest hdepth hrest hfuel

/-- A text that opens no string, no array and no object. -/
def Plain (s : Text) : Prop :=
  ∀ c ∈ s.head?, c ≠ .scalar '"' ∧ c ≠ .scalar '[' ∧ c ≠ .scalar '\x7b'

/-- What opens no string, no array and no object is a constant, if it is one. -/
theorem value_of_constant (h : Plain s) (hc : constant? s = some (v, rest)) :
    value (fuel + 1) depth s = .ok (v, rest) := by
  rw [value, hc]
  · rintro _ rfl
    exact (h _ rfl).1 rfl
  · rintro _ rfl
    exact (h _ rfl).2.1 rfl
  · rintro _ rfl
    exact (h _ rfl).2.2 rfl

/-- Otherwise it is a number. -/
theorem value_of_number (h : Plain s) (hc : constant? s = none) :
    value (fuel + 1) depth s = number s := by
  rw [value, hc]
  · rintro _ rfl
    exact (h _ rfl).1 rfl
  · rintro _ rfl
    exact (h _ rfl).2.1 rfl
  · rintro _ rfl
    exact (h _ rfl).2.2 rfl

/-- A constant is read as what it stands for. -/
theorem readsAs_constant {cs : List Char} (hv : render v = cs) (hne : cs ≠ [])
    (hplain : ∀ rest, Plain (Text.ofChars cs ++ rest))
    (hconstant : ∀ rest, constant? (Text.ofChars cs ++ rest) = some (w, rest)) :
    ReadsAs 0 v w := by
  subst hv
  refine readsAs_of_succ hne fun fuel depth rest _ _ _ => ?_
  exact value_of_constant (hplain rest) (hconstant rest)

/-- A text with a head that is told. -/
theorem plain_cons {c : CodePoint} (h : c ≠ .scalar '"' ∧ c ≠ .scalar '[' ∧ c ≠ .scalar '\x7b') :
    Plain (c :: s) := by
  rintro _ ⟨⟩
  exact h

theorem readsAs_null : ReadsAs 0 .null .null := by
  refine readsAs_constant render.eq_1 (by decide) (fun _ => plain_cons (by decide)) fun _ => ?_
  simp [constant?, constants, Text.after?, Text.ofString, Text.ofChars]

theorem readsAs_bool (b : Bool) : ReadsAs 0 (.bool b) (.bool b) := by
  cases b with
  | false =>
    refine readsAs_constant (render.eq_2 false) (by decide) (fun _ => plain_cons (by decide))
      fun _ => ?_
    simp [constant?, constants, Text.after?, Text.ofString, Text.ofChars]
  | true =>
    refine readsAs_constant (render.eq_2 true) (by decide) (fun _ => plain_cons (by decide))
      fun _ => ?_
    simp [constant?, constants, Text.after?, Text.ofString, Text.ofChars]

theorem ofChars_renderText (t : Text) (s : Text) : Text.ofChars (renderText t) ++ s
    = .scalar '"' :: (Text.ofChars (t.flatMap escapePoint) ++ .scalar '"' :: s) := by
  simp [renderText, Text.ofChars]

theorem readsAs_str (t : Text) : ReadsAs 0 (.str t) (.str t.pairSurrogates) := by
  refine readsAs_of_succ (List.cons_ne_nil _ _) fun fuel depth rest _ _ _ => ?_
  rw [render.eq_5, ofChars_renderText, value, string_escaped]
  rfl

/-- No constant opens with a digit, not even behind a sign. -/
theorem constants_undigit : ∀ x ∈ constants, ∃ p q name, x.1 = p :: q :: name ∧
    isDigit p = false ∧ isDigit q = false := by
  intro x hx
  simp only [constants, List.mem_cons, List.not_mem_nil, or_false] at hx
  rcases hx with rfl | rfl | rfl | rfl | rfl | rfl <;>
    exact ⟨_, _, _, rfl, by decide, by decide⟩

/-- What opens like a number is no constant. -/
theorem constant?_signedText {t : Text} (ht : Whole t) (s : Text) :
    constant? (signedText negative (t ++ s)) = none := by
  obtain ⟨c, t, rfl, hc⟩ := ht.exists_cons
  have hafter {e : CodePoint} (he : isDigit e = false) (name : Text) :
      Text.after? (c :: (t ++ s)) (e :: name) = none := if_neg (Ne.symm (hc he))
  rw [constant?, List.findSome?_eq_none_iff]
  rintro ⟨_, v⟩ hx
  obtain ⟨p, q, name, rfl, hp, hq⟩ := constants_undigit _ hx
  refine Option.map_eq_none_iff.2 ?_
  cases negative with
  | false => exact hafter hp _
  | true =>
    change (if p = _ then Text.after? (c :: (t ++ s)) (q :: name) else none) = none
    rw [hafter hq, ite_self]

/-- What opens like a number is read as a number. -/
theorem value_signedText {t : Text} (ht : Whole t) (s : Text) :
    value (fuel + 1) depth (signedText negative (t ++ s))
      = number (signedText negative (t ++ s)) := by
  have hplain : Plain (signedText negative (t ++ s)) := by
    cases negative with
    | true => exact plain_cons (by decide)
    | false =>
      obtain ⟨c, t, rfl, hc⟩ := ht.exists_cons
      exact plain_cons ⟨hc (by decide), hc (by decide), hc (by decide)⟩
  exact value_of_number hplain (constant?_signedText ht s)

theorem readsAs_int {z : Int} (hz : (Nat.toDigits 10 z.natAbs).length ≤ Numeral.digitLimit) :
    ReadsAs 0 (.int z) (.int z) := by
  have hrender : render (.int z) = renderInt z := render.eq_3 z
  have hne : renderInt z ≠ [] := by
    cases z with
    | ofNat => exact Nat.toDigits_ne_nil
    | negSucc => exact List.cons_ne_nil _ _
  refine readsAs_of_succ (by rwa [hrender]) fun fuel depth rest _ hrest _ => ?_
  rw [hrender, ofChars_renderInt, signedText_append, value_signedText (whole_ofNat _),
    number_renderInt hz hrest]

/-- **A binary fraction** is read as one. -/
theorem exists_readsAs_float (x : Binary64) : ∃ y, ReadsAs 0 (.float x) (.float y) := by
  have hrender : render (.float x) = renderFloat x := render.eq_4 x
  cases x with
  | nan =>
    refine ⟨.nan, readsAs_constant hrender (by decide) (fun _ => plain_cons (by decide))
      fun _ => ?_⟩
    simp [renderFloat, constant?, constants, Text.after?, Text.ofString, Text.ofChars]
  | infinite negative =>
    refine ⟨.infinite negative, ?_⟩
    cases negative <;>
      refine readsAs_constant hrender (by decide) (fun _ => plain_cons (by decide)) fun _ => ?_ <;>
      simp [renderFloat, constant?, constants, Text.after?, Text.ofString, Text.ofChars]
  | finite negative m exponent =>
    obtain ⟨w, f, e, hw, hf, he, hfe, hparts⟩ := exists_parts_renderFloat negative m exponent
    obtain ⟨y, hy⟩ := exists_number_float hw hf he hfe negative
    have hne : renderFloat (.finite negative m exponent) ≠ [] := by
      intro h
      have hw' := hw.ne_nil
      rw [h] at hparts
      cases negative <;> simp_all [signedText, Text.ofChars]
    refine ⟨y, readsAs_of_succ (by rwa [hrender]) fun fuel depth rest _ hrest _ => ?_⟩
    rw [hrender, hparts, signedText_append, List.append_assoc, List.append_assoc,
      value_signedText hw, hy rest hrest]

/-! ## Between values -/

/-- A text that opens with something other than a blank and a closing bracket. -/
def Opens (s : Text) : Prop := ∃ c t, s = c :: t ∧ isSpace c = false ∧ c ≠ .scalar ']'

theorem Opens.append (h : Opens s) (t : Text) : Opens (s ++ t) := by
  obtain ⟨c, u, rfl, hspace, hbracket⟩ := h
  exact ⟨c, u ++ t, rfl, hspace, hbracket⟩

theorem Opens.skip (h : Opens s) : skip s = s := by
  obtain ⟨c, t, rfl, hspace, -⟩ := h
  rw [Parser.skip, List.dropWhile_cons, hspace]
  rfl

theorem opens_signedText {t : Text} (ht : Whole t) (s : Text) :
    Opens (signedText negative (t ++ s)) := by
  cases negative with
  | true => exact ⟨_, _, rfl, by decide, by decide⟩
  | false =>
    obtain ⟨c, t, rfl, hc⟩ := ht.exists_cons
    refine ⟨c, t ++ s, rfl, ?_, hc (by decide)⟩
    simp only [isSpace, Bool.or_eq_false_iff, decide_eq_false_iff_not]
    exact ⟨⟨⟨hc (by decide), hc (by decide)⟩, hc (by decide)⟩, hc (by decide)⟩

/-- **Every value opens** so that blanks before it can be told from it. -/
theorem opens_render (v : Json) : Opens (Text.ofChars (render v)) := by
  cases v with
  | null => exact ⟨_, _, congrArg _ render.eq_1, by decide, by decide⟩
  | bool b => cases b <;> exact ⟨_, _, congrArg _ (render.eq_2 _), by decide, by decide⟩
  | int z =>
    rw [render, ofChars_renderInt, ← List.append_nil (Text.ofNat _)]
    exact opens_signedText (whole_ofNat _) _
  | float x =>
    rw [render]
    cases x with
    | nan => exact ⟨_, _, rfl, by decide, by decide⟩
    | infinite negative => cases negative <;> exact ⟨_, _, rfl, by decide, by decide⟩
    | finite negative m e =>
      obtain ⟨w, f, e, hw, -, -, -, hparts⟩ := exists_parts_renderFloat negative m e
      rw [hparts]
      exact opens_signedText hw _
  | str t => exact ⟨_, _, congrArg _ (render.eq_5 t), by decide, by decide⟩
  | arr vs => exact ⟨_, _, congrArg _ (render.eq_6 vs), by decide, by decide⟩
  | obj fields => exact ⟨_, _, congrArg _ (render.eq_7 fields), by decide, by decide⟩

theorem opens_renderItems (v : Json) (vs : List Json) :
    Opens (Text.ofChars (renderItems (v :: vs))) := by
  cases vs with
  | nil => rw [renderItems]; exact opens_render v
  | cons v' vs =>
    rw [renderItems, Text.ofChars_append]
    exact (opens_render v).append _

/-! ## Arrays -/

theorem stops_cons {c : CodePoint}
    (h : c = .scalar ',' ∨ c = .scalar ']' ∨ c = .scalar '\x7d') : Stops (c :: s) := by
  rintro _ ⟨⟩
  exact h

/-- **Items** are read one after the other. -/
theorem items_renderItems {vs ws : List Json} (hv : ReadsAs levels v w)
    (hvs : List.Forall₂ (ReadsAs levels) vs ws)
    (hfuel : (renderItems (v :: vs)).length < fuel) (hdepth : levels ≤ depth) (rest : Text) :
    items fuel depth (Text.ofChars (renderItems (v :: vs)) ++ .scalar ']' :: rest)
      = .ok (w :: ws, rest) := by
  induction hvs generalizing v w fuel with
  | nil =>
    obtain ⟨fuel, rfl⟩ := Nat.exists_eq_add_one_of_ne_zero (Nat.ne_zero_of_lt hfuel)
    rw [renderItems] at hfuel ⊢
    rw [items, hv fuel depth _ (Nat.le_of_lt_succ hfuel) hdepth (stops_cons (.inr (.inl rfl)))]
    rfl
  | @cons v' w' vs ws hv' hvs ih =>
    obtain ⟨fuel, rfl⟩ := Nat.exists_eq_add_one_of_ne_zero (Nat.ne_zero_of_lt hfuel)
    rw [renderItems, List.length_append, List.length_cons, List.length_cons] at hfuel
    have hlength : (renderItems (v' :: vs)).length < fuel := by omega
    have hnext := ih hv' hlength
    have hvalue : value fuel depth (Text.ofChars (render v) ++
        (Text.ofChars (',' :: ' ' :: renderItems (v' :: vs)) ++ .scalar ']' :: rest))
          = .ok (w, Text.ofChars (',' :: ' ' :: renderItems (v' :: vs)) ++ .scalar ']' :: rest) :=
      hv fuel depth _ (by omega) hdepth (stops_cons (.inl rfl))
    have hskip := ((opens_renderItems v' vs).append (.scalar ']' :: rest)).skip
    rw [renderItems, Text.ofChars_append, List.append_assoc, items, hvalue]
    change (items fuel depth (skip (Text.ofChars (renderItems (v' :: vs)) ++ _))).map _ = _
    rw [hskip, hnext]
    rfl

/-- **An array** is read item by item. -/
theorem readsAs_arr {vs ws : List Json} (h : List.Forall₂ (ReadsAs levels) vs ws) :
    ReadsAs (levels + 1) (.arr vs) (.arr ws) := by
  have hne : render (.arr vs) ≠ [] := by
    rw [render]
    exact List.cons_ne_nil _ _
  refine readsAs_of_succ hne fun fuel depth rest hdepth _ hfuel => ?_
  obtain ⟨depth, rfl⟩ := Nat.exists_eq_add_one_of_ne_zero (Nat.ne_zero_of_lt hdepth)
  cases h with
  | nil =>
    rw [render, renderItems]
    change value (fuel + 1) (depth + 1) (.scalar '[' :: .scalar ']' :: rest) = _
    rw [value]
    rfl
  | @cons v w vs ws hv hvs =>
    have hlength : (renderItems (v :: vs)).length < fuel := by
      rw [render, List.length_append, List.length_cons, List.length_singleton] at hfuel
      omega
    have hitems := items_renderItems hv hvs hlength (Nat.le_of_succ_le_succ hdepth) rest
    have htext : Text.ofChars (render (.arr (v :: vs))) ++ rest
        = .scalar '[' :: (Text.ofChars (renderItems (v :: vs)) ++ .scalar ']' :: rest) := by
      rw [render]
      simp [Text.ofChars]
    have hopens := (opens_renderItems v vs).append (.scalar ']' :: rest)
    rw [htext, value]
    dsimp only
    rw [hopens.skip]
    split
    · rename_i h
      obtain ⟨c, t, hhead, -, hbracket⟩ := hopens
      exact absurd (List.cons.inj (hhead.symm.trans h)).1 hbracket
    · rw [hitems]
      rfl

/-! ## Objects -/

/-- **A field is read as another one**: its name with surrogates paired, and its value. -/
def FieldReadsAs (levels : Nat) (f g : Text × Json) : Prop :=
  g.1 = f.1.pairSurrogates ∧ ReadsAs levels f.2 g.2

/-- **Fields written one after the other.** -/
def setFields (fields written : List (Text × Json)) : List (Text × Json) :=
  written.foldl (fun fields f => setField f.1 f.2 fields) fields

theorem opens_renderFields (f : Text × Json) (fs : List (Text × Json)) :
    Opens (Text.ofChars (renderFields (f :: fs))) := by
  obtain ⟨name, v⟩ := f
  cases fs with
  | nil => exact ⟨_, _, congrArg _ (renderFields.eq_2 name v), by decide, by decide⟩
  | cons f fs => exact ⟨_, _, congrArg _ (renderFields.eq_3 name v f fs), by decide, by decide⟩

/-- What is read behind a field, when `fields` have been written. -/
def membersBehind (fuel depth : Nat) (fields : List (Text × Json)) (s : Text) :
    Step (List (Text × Json)) :=
  match skip s with
  | .scalar '\x7d' :: rest => .ok (fields, rest)
  | .scalar ',' :: rest => members fuel depth fields (skip rest)
  | t => .error (.malformed .comma t)

/-- **A field is read**, and then what stands behind it. -/
theorem members_field {f g : Text × Json} (h : FieldReadsAs levels f g) (hs : Stops s)
    (hfuel : (render f.2).length ≤ fuel) (hdepth : levels ≤ depth) (fields : List (Text × Json)) :
    members (fuel + 1) depth fields (Text.ofChars (renderText f.1) ++
        (.scalar ':' :: .scalar ' ' :: (Text.ofChars (render f.2) ++ s)))
      = membersBehind fuel depth (setField g.1 g.2 fields) s := by
  obtain ⟨hname, hvalue⟩ := h
  have hskip : skip (.scalar ' ' :: (Text.ofChars (render f.2) ++ s))
      = Text.ofChars (render f.2) ++ s := ((opens_render f.2).append s).skip
  have hcolon (t : Text) : skip (.scalar ':' :: t) = .scalar ':' :: t := rfl
  rw [ofChars_renderText, members, string_escaped]
  simp only [hcolon, hskip, hvalue fuel depth s hfuel hdepth hs, ← hname]
  rfl

/-- **Fields** are read one after the other. -/
theorem members_renderFields {f g : Text × Json} {fs gs : List (Text × Json)}
    (hf : FieldReadsAs levels f g) (hfs : List.Forall₂ (FieldReadsAs levels) fs gs)
    (hfuel : (renderFields (f :: fs)).length < fuel) (hdepth : levels ≤ depth)
    (fields : List (Text × Json)) (rest : Text) :
    members fuel depth fields (Text.ofChars (renderFields (f :: fs)) ++ .scalar '\x7d' :: rest)
      = .ok (setFields fields (g :: gs), rest) := by
  obtain ⟨name, v⟩ := f
  induction hfs generalizing name v g fuel fields with
  | nil =>
    obtain ⟨fuel, rfl⟩ := Nat.exists_eq_add_one_of_ne_zero (Nat.ne_zero_of_lt hfuel)
    rw [renderFields, List.length_append, List.length_cons, List.length_cons] at hfuel
    have hstops : Stops (.scalar '\x7d' :: rest) := stops_cons (.inr (.inr rfl))
    have hlength : (render v).length ≤ fuel := by omega
    have hfield := members_field hf hstops hlength hdepth fields
    rw [renderFields, Text.ofChars_append, List.append_assoc]
    exact hfield
  | @cons f' g' fs gs hf' hfs ih =>
    obtain ⟨name', v'⟩ := f'
    obtain ⟨fuel, rfl⟩ := Nat.exists_eq_add_one_of_ne_zero (Nat.ne_zero_of_lt hfuel)
    rw [renderFields, List.length_append, List.length_append, List.length_cons, List.length_cons,
      List.length_cons, List.length_cons] at hfuel
    have hlength : (render v).length ≤ fuel := by omega
    have hrest : (renderFields ((name', v') :: fs)).length < fuel := by omega
    have hnext := ih (setField g.1 g.2 fields) name' v' hf' hrest
    have hstops : Stops (Text.ofChars (',' :: ' ' :: renderFields ((name', v') :: fs))
        ++ .scalar '\x7d' :: rest) := stops_cons (.inl rfl)
    have hfield := members_field hf hstops hlength hdepth fields
    have hskip : skip (Text.ofChars (' ' :: renderFields ((name', v') :: fs))
          ++ .scalar '\x7d' :: rest)
        = Text.ofChars (renderFields ((name', v') :: fs)) ++ .scalar '\x7d' :: rest :=
      ((opens_renderFields (name', v') fs).append _).skip
    rw [renderFields, Text.ofChars_append, Text.ofChars_append, List.append_assoc,
      List.append_assoc]
    exact hfield.trans ((congrArg (members fuel depth _) hskip).trans hnext)

/-- **An object** is read field by field. -/
theorem readsAs_obj {fs gs : List (Text × Json)} (h : List.Forall₂ (FieldReadsAs levels) fs gs) :
    ReadsAs (levels + 1) (.obj fs) (.obj (setFields [] gs)) := by
  have hne : render (.obj fs) ≠ [] := by
    rw [render]
    exact List.cons_ne_nil _ _
  refine readsAs_of_succ hne fun fuel depth rest hdepth _ hfuel => ?_
  obtain ⟨depth, rfl⟩ := Nat.exists_eq_add_one_of_ne_zero (Nat.ne_zero_of_lt hdepth)
  cases h with
  | nil =>
    rw [render, renderFields]
    change value (fuel + 1) (depth + 1) (.scalar '\x7b' :: .scalar '\x7d' :: rest) = _
    rw [value]
    rfl
  | @cons f g fs gs hf hfs =>
    have hlength : (renderFields (f :: fs)).length < fuel := by
      rw [render, List.length_append, List.length_cons, List.length_singleton] at hfuel
      omega
    have hmembers := members_renderFields hf hfs hlength
      (Nat.le_of_succ_le_succ hdepth) [] rest
    have htext : Text.ofChars (render (.obj (f :: fs))) ++ rest
        = .scalar '\x7b' :: (Text.ofChars (renderFields (f :: fs)) ++ .scalar '\x7d' :: rest) := by
      rw [render]
      simp [Text.ofChars]
    have hquote : ∃ t, Text.ofChars (renderFields (f :: fs)) = .scalar '"' :: t := by
      obtain ⟨name, v⟩ := f
      cases fs with
      | nil => exact ⟨_, congrArg _ (renderFields.eq_2 name v)⟩
      | cons f' fs => exact ⟨_, congrArg _ (renderFields.eq_3 name v f' fs)⟩
    rw [htext, value]
    dsimp only
    rw [((opens_renderFields f fs).append _).skip]
    split
    · rename_i h
      obtain ⟨t, ht⟩ := hquote
      rw [ht] at h
      cases h
    · rw [hmembers]
      rfl

/-! ## All values -/

mutual

/-- **Every value within the limit is read back**, if so much nesting is allowed. -/
theorem exists_readsAs (v : Json) (h : isShort v = true) : ∃ w, ReadsAs (nesting v) v w := by
  cases v with
  | null => exact ⟨_, readsAs_null⟩
  | bool b => exact ⟨_, readsAs_bool b⟩
  | int z =>
    rw [isShort, decide_eq_true_eq] at h
    exact ⟨_, readsAs_int h⟩
  | float x =>
    obtain ⟨y, hy⟩ := exists_readsAs_float x
    exact ⟨_, hy⟩
  | str t => exact ⟨_, readsAs_str t⟩
  | arr vs =>
    obtain ⟨ws, hws⟩ := exists_readsAs_items vs (by rwa [isShort] at h)
    rw [nesting]
    exact ⟨_, readsAs_arr hws⟩
  | obj fields =>
    obtain ⟨gs, hgs⟩ := exists_readsAs_fields fields (by rwa [isShort] at h)
    rw [nesting]
    exact ⟨_, readsAs_obj hgs⟩

theorem exists_readsAs_items (vs : List Json) (h : areShort vs = true) :
    ∃ ws, List.Forall₂ (ReadsAs (nestingOfItems vs)) vs ws := by
  cases vs with
  | nil => exact ⟨[], .nil⟩
  | cons v vs =>
    rw [areShort, Bool.and_eq_true] at h
    obtain ⟨w, hw⟩ := exists_readsAs v h.1
    obtain ⟨ws, hws⟩ := exists_readsAs_items vs h.2
    rw [nestingOfItems]
    exact ⟨w :: ws, .cons (hw.mono (Nat.le_max_left _ _))
      (hws.imp fun _ _ hr => hr.mono (Nat.le_max_right _ _))⟩

theorem exists_readsAs_fields (fields : List (Text × Json)) (h : areShortFields fields = true) :
    ∃ gs, List.Forall₂ (FieldReadsAs (nestingOfFields fields)) fields gs := by
  cases fields with
  | nil => exact ⟨[], .nil⟩
  | cons f fields =>
    obtain ⟨name, v⟩ := f
    rw [areShortFields, Bool.and_eq_true] at h
    obtain ⟨w, hw⟩ := exists_readsAs v h.1
    obtain ⟨gs, hgs⟩ := exists_readsAs_fields fields h.2
    rw [nestingOfFields]
    exact ⟨(name.pairSurrogates, w) :: gs, .cons ⟨rfl, hw.mono (Nat.le_max_left _ _)⟩
      (hgs.imp fun _ _ hr => ⟨hr.1, hr.2.mono (Nat.le_max_right _ _)⟩)⟩

end

/-! ## Documents -/

/-- **A document that was written is read.** -/
theorem parse_render (h : ReadsAs levels v w) (hlevels : levels ≤ depthLimit) :
    parse (Text.ofChars (render v)) = .ok w := by
  have hopens := opens_render v
  have hvalue := h (2 * (Text.ofChars (render v)).length + 2) depthLimit []
    (by rw [Text.ofChars, List.length_map]; omega) hlevels (by rintro _ ⟨⟩)
  rw [List.append_nil] at hvalue
  have hdocument : document (Text.ofChars (render v)) = .ok w := by
    rw [document, hopens.skip, hvalue]
    rfl
  rw [parse]
  · rw [hdocument]
  · intro t ht
    obtain ⟨c, hc, hmark⟩ := List.mem_map.1 (ht ▸ List.mem_cons_self)
    rw [CodePoint.scalar.inj hmark] at hc
    exact absurd (printable_render v _ hc) (by decide)

end Json

end FeatureFlags

import FeatureFlags.Proofs.Json.Limits
import FeatureFlags.Proofs.Json.ReadBack

/-!
# Proofs/Json/Documents — documents, however deep

A text is a document by its grammar alone, at as many levels of nesting as it needs (`Document`).
The reader allows some levels only, and where a document needs more of them it meets a limit
(`Document.within`).

The fields of an object are told as they stand, in their order and with all repetitions
(`ObjectDocument`); the value keeps the last one of each name.
-/

namespace FeatureFlags

open Json.Parser

namespace Json

namespace Grammar

/-! ## Levels -/

mutual

/-- **A value is one with any number of levels**, or beyond them. -/
theorem Value.within {d : Nat} {s t : Text} {v : Json} (h : Value d s v t) (depth : Nat) :
    Value depth s v t ∨ ValueBeyond depth s := by
  match h, depth with
  | .text h, _ => exact .inl (.text h)
  | .constant h, _ => exact .inl (.constant h)
  | .number h, _ => exact .inl (.number h)
  | .emptyArray _, 0 | .array _, 0 => exact .inr (.tooDeep (.inl rfl))
  | .emptyObject _, 0 | .object _, 0 => exact .inr (.tooDeep (.inr rfl))
  | .emptyArray h, _ + 1 => exact .inl (.emptyArray h)
  | .emptyObject h, _ + 1 => exact .inl (.emptyObject h)
  | .array h, depth + 1 => exact (h.within depth).imp .array .array
  | .object h, depth + 1 => exact (h.within depth).imp .object .object

theorem Items.within {d : Nat} {s t : Text} {vs : List Json} (h : Items d s vs t) (depth : Nat) :
    Items depth s vs t ∨ ItemsBeyond depth s := by
  match h with
  | .last h ht => exact (h.within depth).imp (.last · ht) .here
  | .more h ht hu =>
    obtain h | h := h.within depth
    · exact (hu.within depth).imp (.more h ht) (.later h ht)
    · exact .inr (.here h)

theorem Members.within {d : Nat} {s t : Text} {fields gs : List (Text × Json)}
    (h : Members d fields s gs t) (depth : Nat) :
    Members depth fields s gs t ∨ MembersBeyond depth s := by
  match h with
  | .last hname hcolon h hw =>
    exact (h.within depth).imp (.last hname hcolon · hw) (.here hname hcolon)
  | .more hname hcolon h hw hx =>
    obtain h | h := h.within depth
    · exact (hx.within depth).imp (.more hname hcolon h hw) (.later hname hcolon h hw)
    · exact .inr (.here hname hcolon h)

end

/-! ## Fields as they stand -/

/-- **Fields as they stand**, from the first one to behind the closing brace. -/
inductive Fields (depth : Nat) : Text → List (Text × Json) → Text → Prop
  | last {s name t u w rest : Text} {v : Json} (hname : string s = .ok (name, t))
      (hcolon : skip t = .scalar ':' :: u) (h : Value depth (skip u) v w)
      (hw : skip w = .scalar '\x7d' :: rest) : Fields depth (.scalar '"' :: s) [(name, v)] rest
  | more {s name t u w x rest : Text} {v : Json} {fs : List (Text × Json)}
      (hname : string s = .ok (name, t)) (hcolon : skip t = .scalar ':' :: u)
      (h : Value depth (skip u) v w) (hw : skip w = .scalar ',' :: x)
      (hx : Fields depth (skip x) fs rest) : Fields depth (.scalar '"' :: s) ((name, v) :: fs) rest

/-- What is read is the fields written one after the other. -/
theorem Fields.members {depth : Nat} {s rest : Text} {fs : List (Text × Json)}
    (h : Fields depth s fs rest) (fields : List (Text × Json)) :
    Members depth fields s (setFields fields fs) rest := by
  induction h generalizing fields with
  | last hname hcolon h hw => exact .last hname hcolon h hw
  | more hname hcolon h hw _ ih => exact .more hname hcolon h hw (ih _)

/-- Whatever fields are read, some stand there. -/
theorem Members.exists_fields {depth : Nat} {s rest : Text} {fields gs : List (Text × Json)}
    (h : Members depth fields s gs rest) :
    ∃ fs, Fields depth s fs rest ∧ gs = setFields fields fs := by
  match h with
  | .last hname hcolon h hw => exact ⟨_, .last hname hcolon h hw, rfl⟩
  | .more hname hcolon h hw hx =>
    obtain ⟨fs, hfs, rfl⟩ := hx.exists_fields
    exact ⟨_, .more hname hcolon h hw hfs, rfl⟩

end Grammar

/-! ## Documents -/

variable {levels depth : Nat} {s t : Text} {v w : Json} {gs : List (Text × Json)}

/-- **A document with a value**, at some levels of nesting: no mark stands before it, and nothing
but blanks behind. -/
def Document (levels : Nat) (s : Text) (v : Json) : Prop :=
  s.head? ≠ some (.scalar '\uFEFF') ∧ ∃ rest, Grammar.Value levels (skip s) v rest ∧ skip rest = []

/-- A document within the limit is read. -/
theorem Document.parse (h : Document depthLimit s v) : parse s = .ok v := by
  obtain ⟨hmark, rest, hvalue, hrest⟩ := h
  have hlength := (skip_suffix s).length_le
  have hdocument : document s = .ok v := by
    rw [document, hvalue.read (by omega)]
    dsimp only
    rw [hrest]
  rw [parse_of_unmarked hmark, hdocument]

/-- **A document is one within the limit**, or it taxes the reader. -/
theorem Document.within (h : Document levels s v) : Document depthLimit s v ∨ Taxing s := by
  obtain ⟨hmark, rest, hvalue, hrest⟩ := h
  exact (hvalue.within depthLimit).imp (fun h => ⟨hmark, rest, h, hrest⟩) fun h => ⟨hmark, h⟩

/-! ## Objects -/

/-- **A document that is an object**, with its fields as they stand. -/
inductive ObjectDocument : Nat → Text → List (Text × Json) → Prop
  | empty {depth : Nat} {s t rest : Text} (hs : skip s = .scalar '\x7b' :: t)
      (ht : skip t = .scalar '\x7d' :: rest) (hrest : skip rest = []) :
      ObjectDocument (depth + 1) s []
  | fields {depth : Nat} {s t rest : Text} {fs : List (Text × Json)}
      (hs : skip s = .scalar '\x7b' :: t) (hfs : Grammar.Fields depth (skip t) fs rest)
      (hrest : skip rest = []) : ObjectDocument (depth + 1) s fs

/-- A mark is no blank, so it would stand where an object is opened. -/
theorem head_ne_of_skip {c : CodePoint} (h : skip s = c :: t) (hc : c ≠ .scalar '\uFEFF') :
    s.head? ≠ some (.scalar '\uFEFF') := by
  intro hmark
  obtain ⟨u, rfl⟩ := List.head?_eq_some_iff.1 hmark
  exact hc (List.cons.inj h).1.symm

/-- The value of an object is its fields written one after the other. -/
theorem ObjectDocument.document {fs : List (Text × Json)} (h : ObjectDocument levels s fs) :
    Document levels s (.obj (setFields [] fs)) := by
  cases h with
  | empty hs ht hrest =>
    refine ⟨head_ne_of_skip hs (by decide), _, ?_, hrest⟩
    rw [hs]
    exact .emptyObject ht
  | fields hs hfs hrest =>
    refine ⟨head_ne_of_skip hs (by decide), _, ?_, hrest⟩
    rw [hs]
    exact .object (hfs.members [])

theorem ne_obj_of_constant? (h : constant? s = some (v, t)) : v ≠ .obj gs := by
  obtain ⟨x, hx, hfound⟩ := List.exists_of_findSome?_eq_some h
  obtain ⟨rest, -, heq⟩ := Option.map_eq_some_iff.1 hfound
  rw [← (Prod.mk.inj heq).1]
  simp only [constants, List.mem_cons, List.not_mem_nil, or_false] at hx
  rcases hx with rfl | rfl | rfl | rfl | rfl | rfl <;> simp

theorem ne_obj_of_number (h : number s = .ok (v, t)) : v ≠ .obj gs := by
  rintro rfl
  obtain hvalue | ⟨negative, w, rest, -, hnumber⟩ := number_or s
  · cases h.symm.trans hvalue
  by_cases hcontinues : Continues rest
  · obtain ⟨x, t, hfloat, -⟩ := numberFrom_of_continues hcontinues negative w
    cases h.symm.trans (hnumber.trans hfloat)
  · rw [numberFrom_of_not_continues hcontinues, h] at hnumber
    split at hnumber <;> cases hnumber

/-- **A document whose value is an object** is one, with some fields. -/
theorem Document.exists_object (h : Document levels s (.obj gs)) :
    ∃ fs, ObjectDocument levels s fs ∧ gs = setFields [] fs := by
  obtain ⟨-, rest, hvalue, hrest⟩ := h
  generalize hs : skip s = t at hvalue
  generalize hv : Json.obj gs = v at hvalue
  cases hvalue with
  | emptyObject ht =>
    cases hv
    exact ⟨[], .empty hs ht hrest, rfl⟩
  | object hmembers =>
    cases hv
    obtain ⟨fs, hfs, rfl⟩ := hmembers.exists_fields
    exact ⟨fs, .fields hs hfs hrest, rfl⟩
  | constant hconstant => exact absurd hv.symm (ne_obj_of_constant? hconstant)
  | number hnumber => exact absurd hv.symm (ne_obj_of_number hnumber)
  | _ => cases hv

/-! ## Documents that are written -/

/-- What was written and can be read is a document. -/
theorem document_render (h : ReadsAs levels v w) : Document levels (.ofChars v.render) w := by
  have hopens := opens_render v
  have hvalue := h v.render.length levels [] (Nat.le_refl _) (Nat.le_refl _) nofun
  have hexplained := Grammar.value_explained v.render.length levels (.ofChars v.render)
  rw [List.append_nil] at hvalue
  rw [hvalue] at hexplained
  cases hexplained with
  | read hread =>
    refine ⟨fun hmark => ?_, [], hopens.skip.symm ▸ hread, rfl⟩
    obtain ⟨c, hc, heq⟩ := List.mem_map.1 (List.mem_of_mem_head? hmark)
    rw [CodePoint.scalar.inj heq] at hc
    exact absurd (printable_render v _ hc) (by decide)

/-! ## Arrays within arrays -/

/-- Arrays, each the only item of the next. -/
def nested : Nat → Json
  | 0 => .arr []
  | n + 1 => .arr [nested n]

theorem readsAs_nested (n : Nat) : ReadsAs (n + 1) (nested n) (nested n) := by
  induction n with
  | zero => exact readsAs_arr .nil
  | succ n ih => exact readsAs_arr (.cons ih .nil)

theorem render_nested_succ (n : Nat) :
    (nested (n + 1)).render = '[' :: (nested n).render ++ [']'] := by
  rw [nested, render, renderItems]

/-- **Arrays that are nested too deep** go beyond the levels. -/
theorem beyond_nested {n : Nat} (h : depth ≤ n) (rest : Text) :
    Grammar.ValueBeyond depth (.ofChars (nested n).render ++ rest) := by
  induction depth generalizing n rest with
  | zero =>
    obtain ⟨t, ht⟩ : ∃ t, (nested n).render = '[' :: t := by
      cases n <;> exact ⟨_, by rw [nested, render]; rfl⟩
    rw [ht]
    exact .tooDeep (.inl rfl)
  | succ depth ih =>
    obtain ⟨n, rfl⟩ := Nat.exists_eq_add_one_of_ne_zero (Nat.ne_zero_of_lt h)
    have hitem : Grammar.ValueBeyond depth
        (skip (.ofChars (nested n).render ++ (.ofChars [']'] ++ rest))) := by
      rw [((opens_render _).append _).skip]
      exact ih (Nat.le_of_succ_le_succ h) _
    rw [render_nested_succ, Text.ofChars_append, List.append_assoc]
    exact .array (.here hitem)

end Json

end FeatureFlags

import FeatureFlags.Proofs.Json.Grammar

/-!
# Proofs/Json/Limits — which documents tax the reader

A document taxes the reader if it meets a limit before any defect (`Taxing`), and just these are
refused for another reason than a defect (`parse_eq_limit_iff`).  Such a document has more digits in
a row than are converted, or opens more arrays and objects than may be nested (`Taxing.heavy`).
-/

namespace FeatureFlags

open Json.Parser

namespace Json

variable {s t : Text} {depth : Nat}

/-- A failure that is no defect. -/
def Failure.IsLimit : Failure → Prop
  | .malformed .. => False
  | .overlong _ | .tooDeep _ => True

/-- **A document that taxes the reader**: in its value, which no mark stands before, there is a
limit. -/
def Taxing (s : Text) : Prop :=
  s.head? ≠ some (.scalar '\uFEFF') ∧ Grammar.ValueBeyond depthLimit (skip s)

theorem document_eq_limit_iff : (∃ e, Grammar.IsLimit e ∧ document s = .error e)
    ↔ Grammar.ValueBeyond depthLimit (skip s) := by
  have hfuel : 2 * (skip s).length < 2 * s.length + 2 := by
    have := (skip_suffix s).length_le
    omega
  rw [← Grammar.value_eq_limit_iff hfuel, document]
  cases value (2 * s.length + 2) depthLimit (skip s) with
  | error e =>
    dsimp only
    refine exists_congr fun e' => and_congr_right' ?_
    rw [Except.error.injEq, Except.error.injEq]
  | ok r =>
    obtain ⟨v, t⟩ := r
    refine iff_of_false ?_ (by rintro ⟨_, _, ⟨⟩⟩)
    dsimp only
    rintro ⟨e, he, hdocument⟩
    split at hdocument <;> cases hdocument
    exact he

/-- Without a mark before it, a document is what is read. -/
theorem parse_of_unmarked (hmark : s.head? ≠ some (.scalar '\uFEFF')) :
    parse s = match document s with
      | .ok v => .ok v
      | .error (.overlong o) => .error (.overlong o)
      | .error (.tooDeep n) => .error (.tooDeep n)
      | .error (.malformed defect rest) => .error (.malformed defect (s.length - rest.length)) := by
  unfold parse
  split
  · exact absurd rfl hmark
  · rfl

/-- **Just what taxes the reader is refused for a limit.** -/
theorem parse_eq_limit_iff : (∃ e, e.IsLimit ∧ parse s = .error e) ↔ Taxing s := by
  by_cases hmark : s.head? = some (.scalar '\uFEFF')
  · obtain ⟨t, rfl⟩ := List.head?_eq_some_iff.1 hmark
    refine iff_of_false ?_ fun h => h.1 rfl
    rintro ⟨e, he, hparse⟩
    cases hparse
    exact he
  have htaxing : Taxing s ↔ ∃ e, Grammar.IsLimit e ∧ document s = .error e :=
    (and_iff_right hmark).trans document_eq_limit_iff.symm
  rw [htaxing, parse_of_unmarked hmark]
  cases document s with
  | ok v => exact iff_of_false (by rintro ⟨_, _, ⟨⟩⟩) (by rintro ⟨_, _, ⟨⟩⟩)
  | error e =>
    cases e with
    | malformed d t =>
      refine iff_of_false ?_ ?_
      · rintro ⟨_, he, ⟨⟩⟩
        exact he
      · rintro ⟨_, he, ⟨⟩⟩
        exact he
    | overlong o => exact iff_of_true ⟨.overlong o, trivial, rfl⟩ ⟨.overlong o, trivial, rfl⟩
    | tooDeep n => exact iff_of_true ⟨.tooDeep n, trivial, rfl⟩ ⟨.tooDeep n, trivial, rfl⟩

/-- **A document of nothing but digits** is refused if they are too many. -/
theorem parse_whole {w : Text} (hw : Whole w) (hlength : Numeral.digitLimit < w.length) :
    parse w = .error (.overlong ⟨w.length⟩) := by
  have hnil : ¬ Continues [] := by
    rintro (⟨_, _, _, ⟨⟩⟩ | ⟨_, _, _, _, _, ⟨⟩, _⟩)
  have happend : signedText false (w ++ []) = w := List.append_nil w
  have hopens : Opens (signedText false (w ++ [])) := opens_signedText hw []
  have hnumber := number_eq_overlong hw (nofun : Undigit []) hnil hlength false
  rw [happend] at hopens hnumber
  have hvalue : value (2 * w.length + 2) depthLimit w = number w :=
    (value_eq_number (by rw [hnumber]; nofun)).1 _ _
  have hdocument : document w = .error (.overlong ⟨w.length⟩) := by
    rw [document, hopens.skip, hvalue, hnumber]
  obtain ⟨c, t, rfl, hc⟩ := hw.exists_cons
  have hmark : (c :: t).head? ≠ some (.scalar '\uFEFF') :=
    fun h => hc (by decide) (Option.some.inj h)
  rw [parse_of_unmarked hmark, hdocument]

/-! ## What taxes the reader is heavy -/

/-- What opens an array or an object. -/
def isOpening (c : CodePoint) : Bool := c = .scalar '[' || c = .scalar '\x7b'

/-- **A heavy text**: more digits in a row than are converted, or more openings than levels. -/
def Heavy (depth : Nat) (s : Text) : Prop :=
  (∃ w, w <:+: s ∧ (∀ c ∈ w, isDigit c = true) ∧ Numeral.digitLimit < w.length) ∨
    depth < s.countP isOpening

theorem Heavy.of_suffix (h : Heavy depth t) (hs : t <:+ s) : Heavy depth s := by
  rcases h with ⟨w, hw, hdigits, hlength⟩ | hcount
  · exact .inl ⟨w, hw.trans hs.isInfix, hdigits, hlength⟩
  · exact .inr (Nat.lt_of_lt_of_le hcount hs.sublist.countP_le)

/-- What is heavy for one level less is heavy behind an opening. -/
theorem Heavy.cons {c : CodePoint} (h : Heavy depth s) (hc : isOpening c = true) :
    Heavy (depth + 1) (c :: s) := by
  rcases h with ⟨w, hw, hdigits, hlength⟩ | hcount
  · exact .inl ⟨w, hw.trans (List.suffix_cons c s).isInfix, hdigits, hlength⟩
  · right
    rw [List.countP_cons_of_pos hc]
    exact Nat.succ_lt_succ hcount

theorem heavy_of_overlong (h : Overlong s) : Heavy depth s := by
  obtain ⟨negative, w, rest, rfl, hwhole, -, -, hlength⟩ := h
  refine .inl ⟨w, ?_, hwhole.isDigit, hlength⟩
  cases negative with
  | false => exact (List.prefix_append w rest).isInfix
  | true => exact (List.prefix_append w rest).isInfix.trans (List.suffix_cons _ _).isInfix

namespace Grammar

mutual

theorem ValueBeyond.heavy {depth : Nat} {s : Text} : ValueBeyond depth s → Heavy depth s
  | .number h => heavy_of_overlong h
  | .tooDeep hc => by
    right
    rw [List.countP_cons_of_pos (by simpa [isOpening] using hc)]
    exact Nat.succ_pos _
  | .array h => (h.heavy.of_suffix (skip_suffix _)).cons (by decide)
  | .object h => (h.heavy.of_suffix (skip_suffix _)).cons (by decide)

theorem ItemsBeyond.heavy {depth : Nat} {s : Text} : ItemsBeyond depth s → Heavy depth s
  | .here h => h.heavy
  | .later h ht hu =>
    hu.heavy.of_suffix (((skip_suffix _).trans (suffix_of_skip ht)).trans h.leaves.suffix)

theorem MembersBeyond.heavy {depth : Nat} {s : Text} : MembersBeyond depth s → Heavy depth s
  | .here hname hcolon h =>
    h.heavy.of_suffix ((((skip_suffix _).trans (suffix_of_skip hcolon)).trans
      (suffix_of_string hname)).trans (List.suffix_cons _ _))
  | .later hname hcolon h hw hx =>
    hx.heavy.of_suffix (((((skip_suffix _).trans (suffix_of_skip hw)).trans
      (h.leaves.suffix.trans (skip_suffix _))).trans ((suffix_of_skip hcolon).trans
        (suffix_of_string hname))).trans (List.suffix_cons _ _))

end

end Grammar

/-- **What taxes the reader is heavy.** -/
theorem Taxing.heavy (h : Taxing s) : Heavy depthLimit s := h.2.heavy.of_suffix (skip_suffix s)

end Json

end FeatureFlags

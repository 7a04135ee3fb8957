import FeatureFlags.Proofs.Json.Tokens

/-!
# Proofs/Json/Grammar — what the reader reads, and where it meets a limit

The grammar is told token by token: what a value, the items of an array and the fields of an object
are, and what they leave (`Value`, `Items`, `Members`).  The reader does not get so far if behind
parts that are read it comes to a whole number of too many digits or to one level of nesting too
many (`ValueBeyond`, `ItemsBeyond`, `MembersBeyond`).

Every result of the reader is one of these or a defect (`value_explained`).  With fuel for each code
point, a value is read and a limit is met just as told (`Value.read`, `value_eq_limit_iff`).
-/

namespace FeatureFlags

open Json.Parser

namespace Json

namespace Grammar

variable {depth fuel : Nat} {s t u rest x : Text} {v : Json} {vs : List Json}
variable {fields gs : List (Text × Json)}

/-! ## What is read -/

mutual

/-- **A value** that opens a text, with the levels of nesting that are allowed and what is left. -/
inductive Value : Nat → Text → Json → Text → Prop
  | text {depth : Nat} {s x rest : Text} (h : string s = .ok (x, rest)) :
      Value depth (.scalar '"' :: s) (.str x) rest
  | constant {depth : Nat} {s rest : Text} {v : Json} (h : constant? s = some (v, rest)) :
      Value depth s v rest
  | number {depth : Nat} {s rest : Text} {v : Json} (h : number s = .ok (v, rest)) :
      Value depth s v rest
  | emptyArray {depth : Nat} {s rest : Text} (h : skip s = .scalar ']' :: rest) :
      Value (depth + 1) (.scalar '[' :: s) (.arr []) rest
  | array {depth : Nat} {s rest : Text} {vs : List Json} (h : Items depth (skip s) vs rest) :
      Value (depth + 1) (.scalar '[' :: s) (.arr vs) rest
  | emptyObject {depth : Nat} {s rest : Text} (h : skip s = .scalar '\x7d' :: rest) :
      Value (depth + 1) (.scalar '\x7b' :: s) (.obj []) rest
  | object {depth : Nat} {s rest : Text} {fields : List (Text × Json)}
      (h : Members depth [] (skip s) fields rest) :
      Value (depth + 1) (.scalar '\x7b' :: s) (.obj fields) rest

/-- **Items**, from the first one to behind the closing bracket. -/
inductive Items : Nat → Text → List Json → Text → Prop
  | last {depth : Nat} {s t rest : Text} {v : Json} (h : Value depth s v t)
      (ht : skip t = .scalar ']' :: rest) : Items depth s [v] rest
  | more {depth : Nat} {s t u rest : Text} {v : Json} {vs : List Json} (h : Value depth s v t)
      (ht : skip t = .scalar ',' :: u) (hu : Items depth (skip u) vs rest) :
      Items depth s (v :: vs) rest

/-- **Fields**, from the first one to behind the closing brace, where others have been read. -/
inductive Members : Nat → List (Text × Json) → Text → List (Text × Json) → Text → Prop
  | last {depth : Nat} {fields : List (Text × Json)} {s name t u w rest : Text} {v : Json}
      (hname : string s = .ok (name, t)) (hcolon : skip t = .scalar ':' :: u)
      (h : Value depth (skip u) v w) (hw : skip w = .scalar '\x7d' :: rest) :
      Members depth fields (.scalar '"' :: s) (setField name v fields) rest
  | more {depth : Nat} {fields gs : List (Text × Json)} {s name t u w x rest : Text} {v : Json}
      (hname : string s = .ok (name, t)) (hcolon : skip t = .scalar ':' :: u)
      (h : Value depth (skip u) v w) (hw : skip w = .scalar ',' :: x)
      (hx : Members depth (setField name v fields) (skip x) gs rest) :
      Members depth fields (.scalar '"' :: s) gs rest

end

/-! ## Where a limit is met -/

mutual

/-- **A value with a limit in it**: it is a whole number of too many digits, it would be nested too
deep, or there is a limit among its items or fields. -/
inductive ValueBeyond : Nat → Text → Prop
  | number {depth : Nat} {s : Text} (h : Overlong s) : ValueBeyond depth s
  | tooDeep {s : Text} {c : CodePoint} (hc : c = .scalar '[' ∨ c = .scalar '\x7b') :
      ValueBeyond 0 (c :: s)
  | array {depth : Nat} {s : Text} (h : ItemsBeyond depth (skip s)) :
      ValueBeyond (depth + 1) (.scalar '[' :: s)
  | object {depth : Nat} {s : Text} (h : MembersBeyond depth (skip s)) :
      ValueBeyond (depth + 1) (.scalar '\x7b' :: s)

/-- **Items with a limit**, behind some that are read. -/
inductive ItemsBeyond : Nat → Text → Prop
  | here {depth : Nat} {s : Text} (h : ValueBeyond depth s) : ItemsBeyond depth s
  | later {depth : Nat} {s t u : Text} {v : Json} (h : Value depth s v t)
      (ht : skip t = .scalar ',' :: u) (hu : ItemsBeyond depth (skip u)) : ItemsBeyond depth s

/-- **Fields with a limit**, behind some that are read. -/
inductive MembersBeyond : Nat → Text → Prop
  | here {depth : Nat} {s name t u : Text} (hname : string s = .ok (name, t))
      (hcolon : skip t = .scalar ':' :: u) (h : ValueBeyond depth (skip u)) :
      MembersBeyond depth (.scalar '"' :: s)
  | later {depth : Nat} {s name t u w x : Text} {v : Json} (hname : string s = .ok (name, t))
      (hcolon : skip t = .scalar ':' :: u) (h : Value depth (skip u) v w)
      (hw : skip w = .scalar ',' :: x) (hx : MembersBeyond depth (skip x)) :
      MembersBeyond depth (.scalar '"' :: s)

end

/-! ## Progress -/

mutual

/-- **A value is something**: it leaves less than there was. -/
theorem Value.leaves {depth : Nat} {s t : Text} {v : Json} : Value depth s v t → Leaves s t
  | .text h => .of_cons (suffix_of_string h)
  | .constant h => (leaves_of_constant? h).1
  | .number h => leaves_of_number h
  | .emptyArray h | .emptyObject h => .of_cons (suffix_of_skip h)
  | .array h => .of_cons (h.leaves.suffix.trans (skip_suffix _))
  | .object h => .of_cons (h.leaves.suffix.trans (skip_suffix _))

theorem Items.leaves {depth : Nat} {s t : Text} {vs : List Json} : Items depth s vs t → Leaves s t
  | .last h ht => h.leaves.trans_suffix (suffix_of_skip ht)
  | .more h ht hu =>
    h.leaves.trans_suffix ((hu.leaves.suffix.trans (skip_suffix _)).trans (suffix_of_skip ht))

theorem Members.leaves {depth : Nat} {s t : Text} {fields gs : List (Text × Json)} :
    Members depth fields s gs t → Leaves s t
  | .last hname hcolon h hw =>
    .of_cons ((suffix_of_skip hw).trans ((h.leaves.suffix.trans (skip_suffix _)).trans
      ((suffix_of_skip hcolon).trans (suffix_of_string hname))))
  | .more hname hcolon h hw hx =>
    .of_cons (((hx.leaves.suffix.trans (skip_suffix _)).trans (suffix_of_skip hw)).trans
      ((h.leaves.suffix.trans (skip_suffix _)).trans
        ((suffix_of_skip hcolon).trans (suffix_of_string hname))))

end

/-! ## The reader, case by case -/

theorem value_text (depth fuel : Nat) (s : Text) : value (fuel + 1) depth (.scalar '"' :: s)
    = (string s).map fun (x, rest) => (.str x, rest) := by
  rw [value]

theorem value_tooDeep {c : CodePoint} (hc : c = .scalar '[' ∨ c = .scalar '\x7b') (fuel : Nat)
    (s : Text) : ∃ n, value (fuel + 1) 0 (c :: s) = .error (.tooDeep n) := by
  rcases hc with rfl | rfl
  · exact ⟨.array, by rw [value]⟩
  · exact ⟨.object, by rw [value]⟩

theorem value_array (depth fuel : Nat) (h : (skip s).head? ≠ some (.scalar ']')) :
    value (fuel + 1) (depth + 1) (.scalar '[' :: s)
      = (items fuel depth (skip s)).map fun (vs, rest) => (.arr vs, rest) := by
  rw [value]
  split
  · rename_i hs
    rw [hs] at h
    exact absurd rfl h
  · rfl

theorem value_emptyArray (depth fuel : Nat) (h : skip s = .scalar ']' :: rest) :
    value (fuel + 1) (depth + 1) (.scalar '[' :: s) = .ok (.arr [], rest) := by
  rw [value, h]
  rfl

theorem value_object (depth fuel : Nat) (h : (skip s).head? ≠ some (.scalar '\x7d')) :
    value (fuel + 1) (depth + 1) (.scalar '\x7b' :: s)
      = (members fuel depth [] (skip s)).map fun (fields, rest) => (.obj fields, rest) := by
  rw [value]
  split
  · rename_i hs
    rw [hs] at h
    exact absurd rfl h
  · rfl

theorem value_emptyObject (depth fuel : Nat) (h : skip s = .scalar '\x7d' :: rest) :
    value (fuel + 1) (depth + 1) (.scalar '\x7b' :: s) = .ok (.obj [], rest) := by
  rw [value, h]
  rfl

theorem items_last (h : value fuel depth s = .ok (v, t)) (ht : skip t = .scalar ']' :: rest) :
    items (fuel + 1) depth s = .ok ([v], rest) := by
  rw [items, h]
  dsimp only
  rw [ht]
  rfl

theorem items_more (h : value fuel depth s = .ok (v, t)) (ht : skip t = .scalar ',' :: u) :
    items (fuel + 1) depth s
      = (items fuel depth (skip u)).map fun (vs, rest) => (v :: vs, rest) := by
  rw [items, h]
  dsimp only
  rw [ht]
  rfl

/-- A name and its colon are read before the value of a field. -/
theorem members_named {name : Text} (hname : string s = .ok (name, t))
    (hcolon : skip t = .scalar ':' :: u) (depth fuel : Nat) (fields : List (Text × Json)) :
    members (fuel + 1) depth fields (.scalar '"' :: s) = match value fuel depth (skip u) with
      | .error e => .error e
      | .ok (v, w) => membersBehind fuel depth (setField name v fields) w := by
  rw [members, hname]
  dsimp only
  rw [hcolon]
  rfl

theorem membersBehind_last (h : skip s = .scalar '\x7d' :: rest) (depth fuel : Nat)
    (fields : List (Text × Json)) : membersBehind fuel depth fields s = .ok (fields, rest) := by
  rw [membersBehind, h]
  rfl

theorem membersBehind_more (h : skip s = .scalar ',' :: t) (depth fuel : Nat)
    (fields : List (Text × Json)) :
    membersBehind fuel depth fields s = members fuel depth fields (skip t) := by
  rw [membersBehind, h]
  rfl

/-! ## Every result is explained -/

/-- A limit that was met, and no defect. -/
def IsLimit : Halt → Prop
  | .malformed .. => False
  | .overlong _ | .tooDeep _ => True

/-- **What the result of reading tells**: that something was read, that there is a limit, or that
there is a defect. -/
inductive Explained {α : Type} (reads : α → Text → Prop) (beyond : Prop) : Step α → Prop
  | read {a : α} {t : Text} (h : reads a t) : Explained reads beyond (.ok (a, t))
  | limit {e : Halt} (he : IsLimit e) (h : beyond) : Explained reads beyond (.error e)
  | defect (d : Defect) (t : Text) : Explained reads beyond (.error (.malformed d t))

namespace Explained

variable {α β : Type} {reads : α → Text → Prop} {reads' : β → Text → Prop} {beyond beyond' : Prop}
variable {r : Step α}

theorem map {f : α → β} (h : Explained reads beyond r)
    (hreads : ∀ a t, reads a t → reads' (f a) t) (hbeyond : beyond → beyond') :
    Explained reads' beyond' (r.map fun (a, t) => (f a, t)) := by
  cases h with
  | read h => exact .read (hreads _ _ h)
  | limit he h => exact .limit he (hbeyond h)
  | defect d t => exact .defect d t

theorem imp {reads' : α → Text → Prop} (h : Explained reads beyond r)
    (hreads : ∀ a t, reads a t → reads' a t) (hbeyond : beyond → beyond') :
    Explained reads' beyond' r := by
  cases h with
  | read h => exact .read (hreads _ _ h)
  | limit he h => exact .limit he (hbeyond h)
  | defect d t => exact .defect d t

/-- What was read is what the result says. -/
theorem self (h : Explained reads beyond r) : Explained (fun a t => r = .ok (a, t)) beyond r := by
  cases h with
  | read h => exact .read rfl
  | limit he h => exact .limit he h
  | defect d t => exact .defect d t

end Explained

/-- There is no limit in a string. -/
theorem string_explained (s : Text) :
    Explained (fun x t => string s = .ok (x, t)) False (string s) := by
  have hscan (opening s : Text) : Explained (fun _ _ => True) False (scanString opening s) := by
    fun_induction scanString opening s with
    | case1 | case3 | case4 | case6 | case8 => exact .defect _ _
    | case2 => exact .read trivial
    | case5 _ _ _ _ _ ih | case7 _ _ _ _ _ ih | case9 _ _ _ _ _ _ _ ih =>
      exact ih.map (fun _ _ _ => trivial) id
  have hstring : Explained (fun _ _ => True) False (string s) :=
    (hscan _ s).map (fun _ _ _ => trivial) id
  exact hstring.self

theorem number_explained (s : Text) :
    Explained (fun v t => number s = .ok (v, t)) (Overlong s) (number s) := by
  obtain hvalue | ⟨⟨o, hoverlong⟩, h⟩ | ⟨v, t, hread, -⟩ := number_cases s
  · rw [hvalue]
    exact .defect _ _
  · rw [hoverlong]
    exact .limit trivial h
  · rw [hread]
    exact .read rfl

theorem plain_or (s : Text) : Plain s ∨
    ∃ c t, s = c :: t ∧ (c = .scalar '"' ∨ c = .scalar '[' ∨ c = .scalar '\x7b') := by
  cases s with
  | nil => exact .inl nofun
  | cons c t =>
    by_cases hc : c = .scalar '"' ∨ c = .scalar '[' ∨ c = .scalar '\x7b'
    · exact .inr ⟨c, t, rfl, hc⟩
    · rw [not_or, not_or] at hc
      exact .inl (plain_cons hc)

mutual

/-- **Every result of reading a value is explained**, whatever the fuel. -/
theorem value_explained (fuel depth : Nat) (s : Text) :
    Explained (Value depth s) (ValueBeyond depth s) (value fuel depth s) := by
  match fuel with
  | 0 =>
    rw [value]
    exact .defect _ _
  | fuel + 1 =>
    obtain hplain | ⟨c, t, rfl, hc⟩ := plain_or s
    · cases hconstant : constant? s with
      | some found =>
        rw [value_of_constant hplain hconstant]
        exact .read (.constant hconstant)
      | none =>
        rw [value_of_number hplain hconstant]
        exact (number_explained s).imp (fun _ _ => .number) .number
    rcases hc with rfl | hc
    · rw [value_text]
      exact (string_explained t).map (fun _ _ => .text) False.elim
    cases depth with
    | zero =>
      obtain ⟨n, hn⟩ := value_tooDeep hc fuel t
      rw [hn]
      exact .limit trivial (.tooDeep hc)
    | succ depth =>
      rcases hc with rfl | rfl
      · by_cases hempty : (skip t).head? = some (.scalar ']')
        · obtain ⟨rest, hrest⟩ := List.head?_eq_some_iff.1 hempty
          rw [value_emptyArray depth fuel hrest]
          exact .read (.emptyArray hrest)
        · rw [value_array depth fuel hempty]
          exact (items_explained fuel depth (skip t)).map (fun _ _ => .array) .array
      · by_cases hempty : (skip t).head? = some (.scalar '\x7d')
        · obtain ⟨rest, hrest⟩ := List.head?_eq_some_iff.1 hempty
          rw [value_emptyObject depth fuel hrest]
          exact .read (.emptyObject hrest)
        · rw [value_object depth fuel hempty]
          exact (members_explained fuel depth [] (skip t)).map (fun _ _ => .object) .object
termination_by fuel

theorem items_explained (fuel depth : Nat) (s : Text) :
    Explained (Items depth s) (ItemsBeyond depth s) (items fuel depth s) := by
  match fuel with
  | 0 =>
    rw [items]
    exact .defect _ _
  | fuel + 1 =>
    have hvalue := value_explained fuel depth s
    rw [items]
    cases hv : value fuel depth s <;> rw [hv] at hvalue
    · cases hvalue with
      | limit he h => exact .limit he (.here h)
      | defect d t => exact .defect d t
    · cases hvalue with
      | read h =>
        dsimp only
        split
        · rename_i ht
          exact .read (.last h ht)
        · rename_i ht
          exact (items_explained fuel depth _).map (fun _ _ => .more h ht) (.later h ht)
        · exact .defect _ _
termination_by fuel

theorem members_explained (fuel depth : Nat) (fields : List (Text × Json)) (s : Text) :
    Explained (Members depth fields s) (MembersBeyond depth s) (members fuel depth fields s) := by
  match fuel with
  | 0 =>
    rw [members]
    exact .defect _ _
  | fuel + 1 =>
    unfold members
    split
    · rename_i t
      have hstring := string_explained t
      cases hname : string t <;> rw [hname] at hstring
      · cases hstring with
        | limit _ h => exact h.elim
        | defect d t => exact .defect d t
      · dsimp only
        split
        · rename_i u hcolon
          have hvalue := value_explained fuel depth (skip u)
          cases hv : value fuel depth (skip u) <;> rw [hv] at hvalue
          · cases hvalue with
            | limit he h => exact .limit he (.here hname hcolon h)
            | defect d t => exact .defect d t
          · cases hvalue with
            | read h =>
              dsimp only
              split
              · rename_i hw
                exact .read (.last hname hcolon h hw)
              · rename_i hw
                exact (members_explained fuel depth _ _).imp (fun _ _ => .more hname hcolon h hw)
                  (.later hname hcolon h hw)
              · exact .defect _ _
        · exact .defect _ _
    · exact .defect _ _
termination_by fuel

end

/-! ## What is told is read -/

theorem Value.head_ne (h : Value depth s v t) : s.head? ≠ some (.scalar ']') := by
  cases h with
  | constant h => exact (leaves_of_constant? h).2.2
  | number h => exact (value_eq_number (by rw [h]; nofun)).2
  | _ => exact fun h => absurd (Option.some.inj h) (by decide)

theorem Items.head_ne (h : Items depth s vs t) : s.head? ≠ some (.scalar ']') := by
  cases h with
  | last h => exact h.head_ne
  | more h => exact h.head_ne

theorem Members.head_ne (h : Members depth fields s gs t) : s.head? ≠ some (.scalar '\x7d') := by
  cases h with
  | last | more => exact fun h => absurd (Option.some.inj h) (by decide)

theorem length_skip_le (s : Text) : (skip s).length ≤ s.length := (skip_suffix s).length_le

/-- What is left behind a mark is so much shorter, blanks or not. -/
theorem length_skip_of_skip {c : CodePoint} (h : skip s = c :: t) :
    (skip t).length < s.length :=
  Nat.lt_of_le_of_lt (length_skip_le t) (leaves_of_skip h).length_lt

theorem exists_fuel {n : Nat} (h : n < fuel) : ∃ k, fuel = k + 1 :=
  Nat.exists_eq_add_one_of_ne_zero (Nat.ne_zero_of_lt h)

mutual

/-- **A value is read**, if there is fuel for each code point. -/
theorem Value.read {depth fuel : Nat} {s t : Text} {v : Json} (h : Value depth s v t)
    (hfuel : 2 * s.length < fuel) : value fuel depth s = .ok (v, t) := by
  obtain ⟨fuel, rfl⟩ := exists_fuel hfuel
  match h with
  | .text h =>
    rw [value_text, h]
    rfl
  | .constant h => exact value_of_constant (leaves_of_constant? h).2.1 h
  | .number h => exact ((value_eq_number (by rw [h]; nofun)).1 fuel depth).trans h
  | .emptyArray h => exact value_emptyArray _ fuel h
  | .emptyObject h => exact value_emptyObject _ fuel h
  | .array (s := s) h =>
    have hlength := length_skip_le s
    rw [List.length_cons] at hfuel
    rw [value_array _ fuel h.head_ne, h.read (by omega)]
    rfl
  | .object (s := s) h =>
    have hlength := length_skip_le s
    rw [List.length_cons] at hfuel
    rw [value_object _ fuel h.head_ne, h.read (by omega)]
    rfl

theorem Items.read {depth fuel : Nat} {s t : Text} {vs : List Json} (h : Items depth s vs t)
    (hfuel : 2 * s.length + 1 < fuel) : items fuel depth s = .ok (vs, t) := by
  obtain ⟨fuel, rfl⟩ := exists_fuel hfuel
  match h with
  | .last h ht => exact items_last (h.read (by omega)) ht
  | .more h ht hu =>
    have hleaves := h.leaves.length_lt
    have hlength := length_skip_of_skip ht
    rw [items_more (h.read (by omega)) ht, hu.read (by omega)]
    rfl

theorem Members.read {depth fuel : Nat} {s t : Text} {fields gs : List (Text × Json)}
    (h : Members depth fields s gs t) (hfuel : 2 * s.length + 1 < fuel) :
    members fuel depth fields s = .ok (gs, t) := by
  obtain ⟨fuel, rfl⟩ := exists_fuel hfuel
  match h with
  | .last hname hcolon h hw =>
    have hstring := (suffix_of_string hname).length_le
    have hlength := length_skip_of_skip hcolon
    rw [List.length_cons] at hfuel
    rw [members_named hname hcolon, h.read (by omega)]
    exact membersBehind_last hw ..
  | .more hname hcolon h hw hx =>
    have hstring := (suffix_of_string hname).length_le
    have hlength := length_skip_of_skip hcolon
    have hleaves := h.leaves.length_lt
    have hlength' := length_skip_of_skip hw
    rw [List.length_cons] at hfuel
    rw [members_named hname hcolon, h.read (by omega)]
    exact (membersBehind_more hw ..).trans (hx.read (by omega))

end

/-! ## Where a limit is told, it is met -/

theorem ValueBeyond.head_ne (h : ValueBeyond depth s) : s.head? ≠ some (.scalar ']') := by
  cases h with
  | number h =>
    obtain ⟨o, ho⟩ := number_of_overlong h
    exact (value_eq_number (by rw [ho]; nofun)).2
  | tooDeep hc =>
    rcases hc with rfl | rfl
    · exact fun h => absurd (Option.some.inj h) (by decide)
    · exact fun h => absurd (Option.some.inj h) (by decide)
  | array | object => exact fun h => absurd (Option.some.inj h) (by decide)

theorem ItemsBeyond.head_ne (h : ItemsBeyond depth s) : s.head? ≠ some (.scalar ']') := by
  cases h with
  | here h => exact h.head_ne
  | later h => exact h.head_ne

theorem MembersBeyond.head_ne (h : MembersBeyond depth s) : s.head? ≠ some (.scalar '\x7d') := by
  cases h with
  | here | later => exact fun h => absurd (Option.some.inj h) (by decide)

mutual

/-- **A limit is met**, if there is fuel for each code point. -/
theorem ValueBeyond.met {depth fuel : Nat} {s : Text} (h : ValueBeyond depth s)
    (hfuel : 2 * s.length < fuel) : ∃ e, IsLimit e ∧ value fuel depth s = .error e := by
  obtain ⟨fuel, rfl⟩ := exists_fuel hfuel
  match h with
  | .number h =>
    obtain ⟨o, ho⟩ := number_of_overlong h
    exact ⟨.overlong o, trivial, ((value_eq_number (by rw [ho]; nofun)).1 fuel depth).trans ho⟩
  | .tooDeep (s := s) hc =>
    obtain ⟨n, hn⟩ := value_tooDeep hc fuel s
    exact ⟨.tooDeep n, trivial, hn⟩
  | .array (s := s) h =>
    have hlength := length_skip_le s
    rw [List.length_cons] at hfuel
    have hbound : 2 * (skip s).length + 1 < fuel := by omega
    obtain ⟨e, he, hitems⟩ := h.met hbound
    exact ⟨e, he, by rw [value_array _ fuel h.head_ne, hitems]; rfl⟩
  | .object (s := s) h =>
    have hlength := length_skip_le s
    rw [List.length_cons] at hfuel
    have hbound : 2 * (skip s).length + 1 < fuel := by omega
    obtain ⟨e, he, hmembers⟩ := h.met hbound []
    exact ⟨e, he, by rw [value_object _ fuel h.head_ne, hmembers]; rfl⟩

theorem ItemsBeyond.met {depth fuel : Nat} {s : Text} (h : ItemsBeyond depth s)
    (hfuel : 2 * s.length + 1 < fuel) : ∃ e, IsLimit e ∧ items fuel depth s = .error e := by
  obtain ⟨fuel, rfl⟩ := exists_fuel hfuel
  match h with
  | .here h =>
    have hbound : 2 * s.length < fuel := by omega
    obtain ⟨e, he, hvalue⟩ := h.met hbound
    exact ⟨e, he, by rw [items, hvalue]⟩
  | .later (u := u) h ht hu =>
    have hleaves := h.leaves.length_lt
    have hlength := length_skip_of_skip ht
    have hbound : 2 * (skip u).length + 1 < fuel := by omega
    obtain ⟨e, he, hitems⟩ := hu.met hbound
    exact ⟨e, he, by rw [items_more (h.read (by omega)) ht, hitems]; rfl⟩

theorem MembersBeyond.met {depth fuel : Nat} {s : Text} (h : MembersBeyond depth s)
    (hfuel : 2 * s.length + 1 < fuel) (fields : List (Text × Json)) :
    ∃ e, IsLimit e ∧ members fuel depth fields s = .error e := by
  obtain ⟨fuel, rfl⟩ := exists_fuel hfuel
  match h with
  | .here (u := u) hname hcolon h =>
    have hstring := (suffix_of_string hname).length_le
    have hlength := length_skip_of_skip hcolon
    rw [List.length_cons] at hfuel
    have hbound : 2 * (skip u).length < fuel := by omega
    obtain ⟨e, he, hvalue⟩ := h.met hbound
    exact ⟨e, he, by rw [members_named hname hcolon, hvalue]⟩
  | .later hname hcolon h hw hx =>
    have hstring := (suffix_of_string hname).length_le
    have hlength := length_skip_of_skip hcolon
    have hleaves := h.leaves.length_lt
    have hlength' := length_skip_of_skip hw
    rw [List.length_cons] at hfuel
    rw [members_named hname hcolon, h.read (by omega)]
    dsimp only
    rw [membersBehind_more hw]
    exact hx.met (by omega) _

end

/-- **A limit is met just where one is told.** -/
theorem value_eq_limit_iff (hfuel : 2 * s.length < fuel) :
    (∃ e, IsLimit e ∧ value fuel depth s = .error e) ↔ ValueBeyond depth s := by
  refine ⟨?_, fun h => h.met hfuel⟩
  rintro ⟨e, he, hvalue⟩
  have hexplained := value_explained fuel depth s
  rw [hvalue] at hexplained
  cases hexplained with
  | limit _ h => exact h
  | defect => exact he.elim

end Grammar

end Json

end FeatureFlags

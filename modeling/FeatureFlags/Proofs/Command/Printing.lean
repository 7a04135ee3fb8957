import FeatureFlags.Command.Output
import FeatureFlags.Proofs.Text.Encodable

/-!
# Proofs/Command/Printing — what printing leaves behind

What was printed stays printed, so the output of a program opens with the lines that it is known to
print first, whatever comes of the rest (`Opens`).  A line is printed if it can be encoded, and it
loses nothing but terminal sequences.
-/

namespace FeatureFlags

namespace Console

variable {α β : Type} {c : Console α} {k : α → Console β} {a : α} {b : β} {t : Text}
variable {ts us : List Text}

/-! ## Lines -/

/-- The characters that a line leaves behind. -/
def rendered (t : Text) : List Char := ((plain t ++ "\n").chars?).getD []

/-- **The characters that lines leave behind.** -/
def printed (ts : List Text) : List Char := ts.flatMap rendered

theorem printed_append (ts us : List Text) : printed (ts ++ us) = printed ts ++ printed us :=
  List.flatMap_append ..

theorem mem_of_mem_behindSequence? {t rest : Text} (h : behindSequence? t = some rest) :
    ∀ e ∈ rest, e ∈ t := by
  unfold behindSequence? at h
  split at h
  · rename_i d r hr
    split at h
    · cases h
      intro e he
      have hmem : e ∈ (t.dropWhile isParameter).dropWhile isIntermediate :=
        hr ▸ List.mem_cons_of_mem d he
      exact List.dropWhile_sublist _ |>.mem (List.dropWhile_sublist _ |>.mem hmem)
    · cases h
  · cases h

theorem mem_of_mem_sequence? {t rest : Text} (h : sequence? t = some rest) : ∀ e ∈ rest, e ∈ t := by
  unfold sequence? at h
  split at h
  · exact fun e he =>
      List.mem_cons_of_mem _ (List.mem_cons_of_mem _ (mem_of_mem_behindSequence? h e he))
  · cases h

/-- Nothing is added to a text by leaving terminal sequences out. -/
theorem mem_of_mem_plain {t : Text} : ∀ e ∈ plain t, e ∈ t := by
  fun_induction plain t with
  | case1 t rest h _ ih => exact fun e he => mem_of_mem_sequence? h e (ih e he)
  | case2 => exact fun e he => he
  | case3 d t _ ih =>
    exact fun e he => (List.mem_cons.1 he).elim (fun h => h ▸ List.mem_cons_self)
      fun h => List.mem_cons_of_mem d (ih e h)

theorem characters_line (h : t.Encodable) :
    Utf8.characters (plain t ++ "\n") = .ok (rendered t) := by
  have hline : (plain t ++ "\n").Encodable :=
    (h.mono mem_of_mem_plain).append (Text.encodable_ofString "\n")
  obtain ⟨cs, hcs⟩ := Text.encodable_iff.1 hline
  rw [rendered, hcs, Text.chars?_ofChars]
  exact Utf8.characters_eq_ok_iff.2 rfl

/-! ## Printing lines, and opening with lines -/

/-- **A program prints lines** and has a result. -/
def Prints (c : Console α) (a : α) (ts : List Text) : Prop :=
  ∀ out, c.run out = (.ok a, out ++ printed ts)

/-- **A program opens with lines**, whatever comes behind them. -/
def Opens (c : Console α) (ts : List Text) : Prop := ∀ out, out ++ printed ts <+: (c.run out).2

theorem prints_line (h : t.Encodable) : Prints (line t) () [t] := fun out => by
  rw [line, characters_line h, printed, List.flatMap_singleton]
  rfl

theorem run_bind (c : Console α) (k : α → Console β) (out : List Char) : (c >>= k).run out =
    match c.run out with
    | (.ok a, out) => (k a).run out
    | (.error e, out) => (.error e, out) := by
  have hrun : (c >>= k).run out = ExceptT.bindCont k (c.run out).1 (c.run out).2 := rfl
  rw [hrun]
  rcases c.run out with ⟨_ | _, _⟩ <;> rfl

theorem Prints.bind (h : Prints c a ts) (hk : Prints (k a) b us) :
    Prints (c >>= k) b (ts ++ us) := fun out => by
  rw [run_bind, h out, printed_append, ← List.append_assoc]
  exact hk _

theorem Prints.bind_opens (h : Prints c a ts) (hk : Opens (k a) us) :
    Opens (c >>= k) (ts ++ us) := fun out => by
  rw [run_bind, h out, printed_append, ← List.append_assoc]
  exact hk _

/-- A line before other lines. -/
theorem prints_line_bind (ht : t.Encodable) (h : Prints c a ts) :
    Prints (line t >>= fun _ => c) a (t :: ts) := (prints_line ht).bind h

/-- A line before whatever comes. -/
theorem opens_line_bind (ht : t.Encodable) (h : Opens c ts) :
    Opens (line t >>= fun _ => c) (t :: ts) := (prints_line ht).bind_opens h

theorem Opens.bind (h : Opens c ts) (hk : ∀ a, Opens (k a) []) : Opens (c >>= k) ts := fun out => by
  have hc := h out
  rw [run_bind]
  rcases hrun : c.run out with ⟨e | a, out'⟩ <;> rw [hrun] at hc
  · exact hc
  · have hout := hk a out'
    rw [printed, List.flatMap_nil, List.append_nil] at hout
    exact hc.trans hout

theorem opens_of_run (h : ∀ out, (c.run out).2 = out) : Opens c [] := fun out => by
  have hout : (c.run out).2 = out ++ printed [] := by
    rw [h, printed, List.flatMap_nil, List.append_nil]
  exact hout ▸ List.prefix_rfl

theorem opens_line (t : Text) : Opens (line t) [] := fun out => by
  rw [printed, List.flatMap_nil, List.append_nil, line]
  cases Utf8.characters (plain t ++ "\n") with
  | ok cs => exact List.prefix_append out cs
  | error => exact List.prefix_rfl

theorem opens_forM {γ : Type} {k : γ → Console Unit} (h : ∀ x, Opens (k x) []) (xs : List γ) :
    Opens (xs.forM k) [] := by
  induction xs with
  | nil => exact opens_of_run fun _ => rfl
  | cons x xs ih => exact (h x).bind fun _ => ih

/-- **A loop opens with the lines of its first items**, whatever comes of the others. -/
theorem opens_forM_append {γ : Type} {k : γ → Console Unit} {l : γ → List Text} {first : List γ}
    (hfirst : ∀ x ∈ first, Prints (k x) () (l x)) (h : ∀ x, Opens (k x) []) (rest : List γ) :
    Opens ((first ++ rest).forM k) (first.flatMap l) := by
  induction first with
  | nil => exact opens_forM h rest
  | cons x first ih =>
    obtain ⟨hx, hfirst⟩ := List.forall_mem_cons.1 hfirst
    exact hx.bind_opens (ih hfirst)

end Console

end FeatureFlags

import FeatureFlags.Files.Path
import FeatureFlags.Proofs.Text.Parts

/-!
# Proofs/Files/Path — the text of a path is read as the path

What is written of a path in normal form (`Path.Normal`) says everything about it, so the path is
found again (`ofText_toText`); and every text is read as such a path (`normal_ofText`).
-/

namespace FeatureFlags

namespace Text

variable {separator : CodePoint} {t piece : Text}

/-- No piece of a text that was split holds the separator. -/
theorem notMem_of_mem_splitOn (h : piece ∈ t.splitOn separator) : separator ∉ piece := by
  induction t using pieceInduction separator with
  | last t ht =>
    rw [splitOn_of_notMem ht, List.mem_singleton] at h
    rwa [h]
  | cut left right hleft ih =>
    rw [splitOn_append_cons hleft] at h
    rcases List.mem_cons.1 h with rfl | h
    · exact hleft
    · exact ih h

end Text

namespace Path

variable {p : Path}

/-- **The normal form of a path**: each name says something and holds no slash. -/
def Normal (p : Path) : Prop := ∀ name ∈ p.names, (name ≠ [] ∧ name ≠ ".") ∧ slash ∉ name

theorem isKept_iff {name : Text} :
    decide (¬ name.isEmpty ∧ name ≠ ".") = true ↔ name ≠ [] ∧ name ≠ "." := by
  rw [decide_eq_true_iff, List.isEmpty_iff]

theorem normal_ofText (t : Text) : (ofText t).Normal := by
  intro name hname
  obtain ⟨hmem, hkept⟩ := List.mem_filter.1 hname
  exact ⟨isKept_iff.1 hkept, Text.notMem_of_mem_splitOn hmem⟩

/-- **Names that are joined are found again.** -/
theorem names_ofText_join (h : p.Normal) : (ofText (Text.join "/" p.names)).names = p.names := by
  by_cases hnil : p.names = []
  · rw [hnil]
    rfl
  · have hsplit : (Text.join "/" p.names).splitOn slash = p.names :=
      Text.splitOn_join hnil fun name hname => (h name hname).2
    rw [ofText, hsplit, List.filter_eq_self]
    exact fun name hname => isKept_iff.2 (h name hname).1

/-- No slash stands before the first name. -/
theorem takeWhile_join (h : p.Normal) :
    (Text.join "/" p.names).takeWhile (· = slash) = [] := by
  obtain ⟨root, names⟩ := p
  cases names with
  | nil => rfl
  | cons name names =>
    obtain ⟨⟨⟨hne, -⟩, hslash⟩, -⟩ := List.forall_mem_cons.1 h
    obtain ⟨c, name, rfl⟩ := List.exists_cons_of_ne_nil hne
    have hjoin : ∃ t, Text.join "/" ((c :: name) :: names) = c :: t := by
      cases names <;> exact ⟨_, rfl⟩
    obtain ⟨t, ht⟩ := hjoin
    have hc : c ≠ slash := fun hc => hslash (hc ▸ List.mem_cons_self)
    rw [ht, List.takeWhile_cons_of_neg (by simpa using hc)]

theorem rootOf_rootText (root : PathRoot) {t : Text} (h : t.takeWhile (· = slash) = []) :
    rootOf (rootText root ++ t) = root := by
  have hslashes : ∀ c ∈ rootText root, decide (c = slash) = true := by cases root <;> decide
  rw [rootOf, List.takeWhile_append_of_pos hslashes, h, List.append_nil]
  cases root <;> rfl

/-- **A path is read back**: its beginning and its names. -/
theorem ofText_toText (h : p.Normal) : ofText p.toText = p := by
  have hnames := names_ofText_join h
  have hroot := rootOf_rootText p.root (takeWhile_join h)
  obtain ⟨root, names⟩ := p
  rw [toText]
  split
  · next hempty =>
    obtain ⟨rfl, hnil⟩ := hempty
    obtain rfl := List.isEmpty_iff.1 hnil
    decide
  · refine Path.mk.injEq .. ▸ ⟨hroot, ?_⟩
    cases root <;> exact hnames

end Path

end FeatureFlags

import Mathlib.Data.List.DropRight
import SymbolReference.Proofs.Text.Words

namespace SymbolReference.Text

/-- A text that neither starts nor ends with white space. -/
structure Trimmed (s : List Char) : Prop where
  start : ∀ c, s.head? = some c → isBlank c = false
  ending : ∀ c, s.getLast? = some c → isBlank c = false

theorem trimRight_concat (s : List Char) (c : Char) :
    trimRight (s ++ [c]) = if isBlank c then trimRight s else s ++ [c] := by
  induction s with
  | nil => rfl
  | cons d s ih =>
      rw [List.cons_append, trimRight, ih]
      by_cases hc : isBlank c = true
      · rw [if_pos hc, if_pos hc, trimRight]
      · rw [if_neg hc, if_neg hc]
        rcases s with _ | ⟨e, s⟩
        · rfl
        · rfl

theorem trimRight_eq_rdropWhile (s : List Char) : trimRight s = s.rdropWhile isBlank := by
  induction s using List.reverseRecOn with
  | nil => rfl
  | append_singleton s c ih => rw [trimRight_concat, List.rdropWhile_concat, ih]

theorem Trimmed.nil : Trimmed [] :=
  ⟨by simp, by simp⟩

theorem trimmed_trim (s : List Char) : Trimmed (trim s) := by
  constructor
  · intro c hc
    -- Trimming the end keeps the first character of what is not all white space.
    have hprefix : trim s <+: trimLeft s := by
      rw [trim, trimRight_eq_rdropWhile]
      exact List.rdropWhile_prefix isBlank _
    obtain ⟨rest, hrest⟩ := hprefix
    have hhead : (trimLeft s).head? = some c := by
      rw [← hrest, List.head?_append, hc, Option.some_or]
    have hnot := List.head?_dropWhile_not isBlank s
    rw [trimLeft] at hhead
    simpa [hhead] using hnot
  · intro c hc
    rw [trim, trimRight_eq_rdropWhile] at hc
    obtain ⟨hne, hlast⟩ := List.mem_getLast?_eq_getLast hc
    have hnot := List.rdropWhile_last_not isBlank (trimLeft s) hne
    rw [← hlast] at hnot
    simpa using hnot

theorem Trimmed.trimLeft_eq {s : List Char} (h : Trimmed s) : trimLeft s = s := by
  rcases s with _ | ⟨c, rest⟩
  · rfl
  · rw [trimLeft, List.dropWhile_cons_of_neg]
    simpa using h.start c rfl

theorem Trimmed.trimRight_eq {s : List Char} (h : Trimmed s) : trimRight s = s := by
  rw [trimRight_eq_rdropWhile, List.rdropWhile_eq_self_iff]
  intro hne
  simpa using h.ending _ (List.getLast?_eq_getLast_of_ne_nil hne)

theorem Trimmed.trim_eq {s : List Char} (h : Trimmed s) : trim s = s := by
  rw [trim, h.trimLeft_eq, h.trimRight_eq]

theorem trim_cons_blank {c : Char} (hc : isBlank c = true) (s : List Char) :
    trim (c :: s) = trim s := by
  rw [trim, trim, trimLeft, List.dropWhile_cons_of_pos hc, trimLeft]

theorem trim_concat_blank {c : Char} (hc : isBlank c = true) {s : List Char} (h : Trimmed s)
    (hne : s ≠ []) : trim (s ++ [c]) = s := by
  have hleft : trimLeft (s ++ [c]) = s ++ [c] := by
    rcases s with _ | ⟨d, rest⟩
    · exact absurd rfl hne
    · rw [trimLeft, List.cons_append, List.dropWhile_cons_of_neg]
      simpa using h.start d rfl
  rw [trim, hleft, trimRight_concat, if_pos hc, h.trimRight_eq]

theorem trimLeft_subset (s : List Char) : trimLeft s ⊆ s :=
  (List.dropWhile_suffix isBlank).subset

theorem trimRight_subset (s : List Char) : trimRight s ⊆ s := by
  rw [trimRight_eq_rdropWhile]
  exact (List.rdropWhile_prefix isBlank s).subset

theorem trim_subset (s : List Char) : trim s ⊆ s :=
  List.Subset.trans (trimRight_subset _) (trimLeft_subset s)

theorem trimmed_joined_space {pieces : List (List Char)}
    (h : ∀ piece ∈ pieces, piece ≠ [] ∧ Trimmed piece) : Trimmed (joined [' '] pieces) := by
  induction pieces with
  | nil => exact Trimmed.nil
  | cons piece others ih =>
      obtain ⟨hne, hpiece⟩ := h piece (by simp)
      have hothers : ∀ other ∈ others, other ≠ [] ∧ Trimmed other := fun other hother =>
        h other (List.mem_cons_of_mem piece hother)
      rcases others with _ | ⟨next, others⟩
      · exact hpiece
      · rw [joined_cons_cons, List.append_assoc]
        constructor
        · intro c hc
          rw [List.head?_append_of_ne_nil _ hne] at hc
          exact hpiece.start c hc
        · intro c hc
          have hrest : joined [' '] (next :: others) ≠ [] := by
            obtain ⟨hnext, -⟩ := hothers next (by simp)
            rcases others with _ | ⟨other, others⟩
            · exact hnext
            · simp
          rw [List.getLast?_append_of_ne_nil _ (by simp),
            List.getLast?_append_of_ne_nil _ hrest] at hc
          exact (ih hothers).ending c hc

theorem trimmed_of_not_blank {s : List Char} (h : ∀ c ∈ s, isBlank c = false) : Trimmed s where
  start := fun c hc => h c (List.mem_of_head? hc)
  ending := fun c hc => h c (List.mem_of_getLast? hc)

theorem trimmed_collapse (s : List Char) : Trimmed (collapse s) :=
  trimmed_joined_space fun _ hword =>
    ⟨(of_mem_words hword).1, trimmed_of_not_blank (of_mem_words hword).2⟩

theorem collapse_collapse (s : List Char) : collapse (collapse s) = collapse s := by
  rw [collapse, words_collapse, ← collapse]

theorem mem_joined_space {c : Char} {pieces : List (List Char)} (h : c ∈ joined [' '] pieces) :
    c = ' ' ∨ ∃ piece ∈ pieces, c ∈ piece := by
  induction pieces with
  | nil => simp at h
  | cons piece others ih =>
      rcases others with _ | ⟨next, others⟩
      · exact Or.inr ⟨piece, by simp, h⟩
      · rw [joined_cons_cons, List.append_assoc, List.mem_append, List.mem_append,
          List.mem_singleton] at h
        rcases h with h | h | h
        · exact Or.inr ⟨piece, by simp, h⟩
        · exact Or.inl h
        · rcases ih h with h | ⟨other, hother, h⟩
          · exact Or.inl h
          · exact Or.inr ⟨other, List.mem_cons_of_mem piece hother, h⟩

/-- The only white space of a collapsed text are spaces, so it is a single line. -/
theorem not_break_of_mem_collapse {c : Char} {s : List Char} (h : c ∈ collapse s) :
    isLineBreak c = false := by
  rcases mem_joined_space h with rfl | ⟨word, hword, hc⟩
  · decide
  · have hblank := (of_mem_words hword).2 c hc
    by_contra hbreak
    rw [isBlank_of_isLineBreak (by simpa using hbreak)] at hblank
    cases hblank

theorem exists_word_of_not_blank {c : Char} (hc : isBlank c = false) (rest : List Char) :
    ∃ word others, words (c :: rest) = (c :: word) :: others := by
  rw [words.eq_def]
  simp only [hc, Bool.false_eq_true, if_false]
  rcases rest with _ | ⟨d, rest⟩
  · exact ⟨[], [], rfl⟩
  · by_cases hd : isBlank d = true
    · exact ⟨[], words (d :: rest), by simp [hd]⟩
    · rcases hwords : words (d :: rest) with _ | ⟨word, others⟩
      · exact ⟨[], [], by simp [hd]⟩
      · exact ⟨word, others, by simp [hd]⟩

/-- Collapsing keeps the first character of a text that does not start with white space. -/
theorem head?_collapse {c : Char} (hc : isBlank c = false) (rest : List Char) :
    (collapse (c :: rest)).head? = some c := by
  obtain ⟨word, others, hwords⟩ := exists_word_of_not_blank hc rest
  rw [collapse, hwords]
  rcases others with _ | ⟨next, others⟩
  · rfl
  · rfl

end SymbolReference.Text

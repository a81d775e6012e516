import Mathlib.Data.List.Basic
import SymbolReference.Text.Words

namespace SymbolReference.Text

theorem words_eq_splitOnP (s : List Char) :
    words s = (s.splitOnP isBlank).filter fun piece => !piece.isEmpty := by
  induction s with
  | nil => rfl
  | cons c rest ih =>
      rw [List.splitOnP_cons_eq_if_modifyHead, words.eq_def]
      by_cases hc : isBlank c = true
      · simp [hc, ih]
      · simp only [hc, Bool.false_eq_true, if_false]
        rcases rest with _ | ⟨d, rest⟩
        · rfl
        -- The piece that `c` extends is empty exactly when a blank follows `c`.
        · rw [List.splitOnP_cons_eq_if_modifyHead] at ih ⊢
          by_cases hd : isBlank d = true
          · simp only [hd, if_true] at ih ⊢
            simp [ih]
          · simp only [hd, Bool.false_eq_true, if_false] at ih ⊢
            obtain ⟨piece, pieces, hpieces⟩ :=
              List.exists_cons_of_ne_nil (List.splitOnP_ne_nil isBlank rest)
            rw [hpieces] at ih ⊢
            simp [ih]

@[simp] theorem words_nil : words [] = [] := rfl

/-- White space separates the words before it from the words after it. -/
theorem words_append_blank {c : Char} (hc : isBlank c = true) (s t : List Char) :
    words (s ++ c :: t) = words s ++ words t := by
  simp only [words_eq_splitOnP]
  rw [List.splitOnP_append_cons s t hc, List.filter_append]

theorem words_cons_blank {c : Char} (hc : isBlank c = true) (s : List Char) :
    words (c :: s) = words s := by
  simpa using words_append_blank hc [] s

theorem words_trimLeft (s : List Char) : words (trimLeft s) = words s := by
  unfold trimLeft
  induction s with
  | nil => rfl
  | cons c rest ih =>
      by_cases hc : isBlank c = true
      · rw [List.dropWhile_cons_of_pos hc, ih, words_cons_blank hc]
      · rw [List.dropWhile_cons_of_neg hc]

/-- A text is its trimmed form with white space after it. -/
theorem exists_blanks_of_trimRight (s : List Char) :
    ∃ blanks, allBlank blanks = true ∧ s = trimRight s ++ blanks := by
  induction s with
  | nil => exact ⟨[], rfl, rfl⟩
  | cons c rest ih =>
      obtain ⟨blanks, hblanks, hrest⟩ := ih
      cases htrim : trimRight rest with
      | nil =>
          rw [htrim, List.nil_append] at hrest
          subst hrest
          by_cases hc : isBlank c = true
          · refine ⟨c :: rest, ?_, ?_⟩
            · simpa [allBlank, hc] using hblanks
            · simp [trimRight, htrim, hc]
          · exact ⟨rest, hblanks, by simp [trimRight, htrim, hc]⟩
      | cons d kept =>
          refine ⟨blanks, hblanks, ?_⟩
          rw [htrim] at hrest
          simp only [trimRight, htrim, List.cons_append, List.cons.injEq, true_and]
          exact hrest

theorem words_of_allBlank {s : List Char} (h : allBlank s = true) : words s = [] := by
  induction s with
  | nil => rfl
  | cons c rest ih =>
      simp only [allBlank, List.all_cons, Bool.and_eq_true] at h
      rw [words_cons_blank h.1]
      exact ih h.2

theorem words_append_of_allBlank (s : List Char) {blanks : List Char}
    (h : allBlank blanks = true) : words (s ++ blanks) = words s := by
  rcases blanks with _ | ⟨c, rest⟩
  · rw [List.append_nil]
  · simp only [allBlank, List.all_cons, Bool.and_eq_true] at h
    rw [words_append_blank h.1, words_of_allBlank h.2, List.append_nil]

theorem words_trimRight (s : List Char) : words (trimRight s) = words s := by
  obtain ⟨blanks, hblanks, hs⟩ := exists_blanks_of_trimRight s
  calc
    words (trimRight s) = words (trimRight s ++ blanks) :=
      (words_append_of_allBlank _ hblanks).symm
    _ = words s := by rw [← hs]

theorem words_trim (s : List Char) : words (trim s) = words s := by
  rw [trim, words_trimRight, words_trimLeft]

theorem words_joined_space (pieces : List (List Char)) :
    words (joined [' '] pieces) = pieces.flatMap words := by
  induction pieces with
  | nil => rfl
  | cons piece others ih =>
      rcases others with _ | ⟨next, others⟩
      · simp
      · rw [joined_cons_cons, List.append_assoc, List.singleton_append,
          words_append_blank (by decide), ih]
        rfl

theorem not_blank_of_mem_splitOnP {piece s : List Char} (h : piece ∈ s.splitOnP isBlank) :
    ∀ c ∈ piece, isBlank c = false := by
  induction s generalizing piece with
  | nil =>
      have hpiece : piece = [] := by simpa [List.splitOnP_nil] using h
      simp [hpiece]
  | cons c rest ih =>
      rw [List.splitOnP_cons_eq_if_modifyHead] at h
      split at h
      · rcases List.mem_cons.mp h with rfl | h
        · simp
        · exact ih h
      · rename_i hc
        obtain ⟨first, pieces, hpieces⟩ :=
          List.exists_cons_of_ne_nil (List.splitOnP_ne_nil isBlank rest)
        rw [hpieces, List.modifyHead_cons] at h
        rw [hpieces] at ih
        rcases List.mem_cons.mp h with rfl | h
        · intro d hd
          rcases List.mem_cons.mp hd with rfl | hd
          · simpa using hc
          · exact ih (by simp) d hd
        · exact ih (List.mem_cons_of_mem first h)

theorem of_mem_words {word s : List Char} (h : word ∈ words s) :
    word ≠ [] ∧ ∀ c ∈ word, isBlank c = false := by
  rw [words_eq_splitOnP] at h
  obtain ⟨hpiece, hne⟩ := List.mem_filter.mp h
  exact ⟨by simpa using hne, not_blank_of_mem_splitOnP hpiece⟩

theorem words_eq_singleton {s : List Char} (hne : s ≠ []) (h : ∀ c ∈ s, isBlank c = false) :
    words s = [s] := by
  rw [words_eq_splitOnP, List.splitOnP_eq_singleton h]
  simp [hne]

theorem words_collapse (s : List Char) : words (collapse s) = words s := by
  have hwords : ∀ word ∈ words s, words word = [word] := fun word hword =>
    words_eq_singleton (of_mem_words hword).1 (of_mem_words hword).2
  rw [collapse, words_joined_space, List.flatMap_congr hwords, List.flatMap_singleton']

end SymbolReference.Text

import SymbolReference.Text.Lines

namespace SymbolReference.Text

/-- A text on one line. -/
def Unbroken (s : List Char) : Prop :=
  ∀ c ∈ s, isLineBreak c = false

instance (s : List Char) : Decidable (Unbroken s) :=
  decidable_of_iff (s.all fun c => !isLineBreak c) (by simp [Unbroken])

theorem Unbroken.of_subset {s t : List Char} (h : Unbroken t) (hsubset : s ⊆ t) : Unbroken s :=
  fun c hc => h c (hsubset hc)

theorem Unbroken.append {s t : List Char} (hs : Unbroken s) (ht : Unbroken t) :
    Unbroken (s ++ t) := by
  intro c hc
  rcases List.mem_append.mp hc with hc | hc
  · exact hs c hc
  · exact ht c hc

theorem lines_cons_of_not_break {c : Char} (hc : isLineBreak c = false) (rest : List Char) :
    lines (c :: rest) =
      match lines rest with
      | [] => [[c]]
      | line :: others => (c :: line) :: others := by
  rw [lines]
  · rw [hc]
    rfl
  · rintro - rfl
    exact absurd hc (by decide)

theorem lines_append_feed {line : List Char} (h : Unbroken line) (rest : List Char) :
    lines (line ++ '\n' :: rest) = line :: lines rest := by
  induction line with
  | nil =>
      rw [List.nil_append, lines]
      · rfl
      · rintro - h
        exact absurd h (by decide)
  | cons c line ih =>
      have hline : Unbroken line := h.of_subset (List.subset_cons_self c line)
      rw [List.cons_append, lines_cons_of_not_break (h c (by simp)), ih hline]

theorem unbroken_of_mem_lines {line s : List Char} (h : line ∈ lines s) : Unbroken line := by
  induction s using lines.induct generalizing line with
  | case1 => cases h
  | case2 rest ih =>
      rw [lines] at h
      rcases List.mem_cons.mp h with rfl | h
      · intro c hc
        cases hc
      · exact ih h
  | case3 c rest hcr hbreak ih =>
      rw [lines, if_pos hbreak] at h
      · rcases List.mem_cons.mp h with rfl | h
        · intro c hc
          cases hc
        · exact ih h
      · exact hcr
  | case4 c rest hcr hbreak hrest ih =>
      rw [lines_cons_of_not_break (by simpa using hbreak), hrest, List.mem_singleton] at h
      subst h
      intro d hd
      rw [List.mem_singleton.mp hd]
      simpa using hbreak
  | case5 c rest hcr hbreak first others hrest ih =>
      rw [lines_cons_of_not_break (by simpa using hbreak), hrest] at h
      rw [hrest] at ih
      rcases List.mem_cons.mp h with rfl | h
      · intro d hd
        rcases List.mem_cons.mp hd with rfl | hd
        · simpa using hbreak
        · exact ih (by simp) d hd
      · exact ih (List.mem_cons_of_mem first h)

end SymbolReference.Text

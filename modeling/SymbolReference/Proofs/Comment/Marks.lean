import SymbolReference.Proofs.Comment.Canonical
import SymbolReference.Proofs.Text.Padding

namespace SymbolReference.Comment

open Text

/-- A text that begins with an opening mark. -/
def OpensBlock (text : List Char) : Prop :=
  ['/', '*'] <+: trim text

/-- A text that ends with a closing mark. -/
def ClosesBlock (text : List Char) : Prop :=
  ['*', '/'] <:+ trim text

instance (text : List Char) : Decidable (OpensBlock text) :=
  inferInstanceAs (Decidable (['/', '*'] <+: trim text))

instance (text : List Char) : Decidable (ClosesBlock text) :=
  inferInstanceAs (Decidable (['*', '/'] <:+ trim text))

theorem exists_trimLeft_eq (line : List Char) :
    ∃ after, allBlank after = true ∧ trimLeft line = trim line ++ after :=
  exists_blanks_of_trimRight (trimLeft line)

theorem dropStars_append_blank {blanks : List Char} (h : allBlank blanks = true) (s : List Char) :
    dropStars (s ++ blanks) = dropStars s ++ blanks := by
  have hblanks : dropStars blanks = blanks := by
    rcases blanks with _ | ⟨c, blanks⟩
    · rfl
    · rw [dropStars, List.dropWhile_cons_of_neg]
      have hc : isBlank c = true := isBlank_of_mem h (by simp)
      simp only [decide_eq_true_eq]
      rintro rfl
      exact absurd hc (by decide)
  rw [dropStars, List.dropWhile_append, ← dropStars, ← dropStars]
  split
  · rename_i hs
    rw [List.isEmpty_iff.mp hs, hblanks, List.nil_append]
  · rfl

/-- White space after a text does not complete a mark at its front. -/
theorem prefix_append_blank_iff {mark text blanks : List Char} (h : allBlank blanks = true)
    (hmark : (mark.all fun c => !isBlank c) = true) :
    mark <+: text ++ blanks ↔ mark <+: text := by
  constructor
  · rintro ⟨rest, hrest⟩
    rcases List.append_eq_append_iff.mp hrest with ⟨others, htext, -⟩ | ⟨others, rfl, hblanks⟩
    · exact ⟨others, htext.symm⟩
    · rcases others with _ | ⟨c, others⟩
      · exact ⟨[], by simp⟩
      · have hc : isBlank c = true := isBlank_of_mem h (by simp [hblanks])
        have hvisible := List.all_eq_true.mp hmark c (by simp)
        rw [hc] at hvisible
        cases hvisible
  · intro hprefix
    exact hprefix.trans (List.prefix_append text blanks)

theorem dropOpening_of_not_opensBlock {line : List Char} (h : ¬OpensBlock line) :
    dropOpening line = line := by
  obtain ⟨after, hafter, hleft⟩ := exists_trimLeft_eq line
  unfold dropOpening
  split
  · rename_i rest hrest
    refine (h ?_).elim
    rw [OpensBlock, ← prefix_append_blank_iff hafter (by decide), ← hleft, hrest]
    exact ⟨rest, rfl⟩
  · rfl

theorem exists_dropOpening_eq {line : List Char} (h : OpensBlock line) :
    ∃ after, allBlank after = true ∧
      dropOpening line = dropStars ((trim line).drop 2) ++ after := by
  obtain ⟨after, hafter, hleft⟩ := exists_trimLeft_eq line
  obtain ⟨rest, hrest⟩ := h
  refine ⟨after, hafter, ?_⟩
  rw [← hrest] at hleft
  rw [← hrest, dropOpening, hleft]
  exact dropStars_append_blank hafter rest

theorem opensBlock_trim_iff {line : List Char} : OpensBlock (trim line) ↔ OpensBlock line := by
  rw [OpensBlock, OpensBlock, trim_trim]

theorem trim_dropOpening_trim (line : List Char) :
    trim (dropOpening (trim line)) = trim (dropOpening line) := by
  by_cases h : OpensBlock line
  · obtain ⟨after, hafter, hline⟩ := exists_dropOpening_eq h
    obtain ⟨after', hafter', htrim⟩ := exists_dropOpening_eq (opensBlock_trim_iff.mpr h)
    rw [hline, htrim, trim_trim, trim_append_right hafter, trim_append_right hafter']
  · rw [dropOpening_of_not_opensBlock h,
      dropOpening_of_not_opensBlock (opensBlock_trim_iff.not.mpr h), trim_trim]

/-- A closing mark is an opening mark read from the end. -/
theorem dropClosing_eq_reverse (line : List Char) :
    dropClosing line = (dropOpening line.reverse).reverse := by
  have hright : (trimRight line).reverse = trimLeft line.reverse := by
    rw [← List.reverse_reverse line, trimRight_reverse, List.reverse_reverse, List.reverse_reverse]
  rw [dropClosing, dropOpening, hright]
  split
  · rfl
  · rw [List.reverse_reverse]

theorem opensBlock_reverse_iff {text : List Char} : OpensBlock text.reverse ↔ ClosesBlock text := by
  rw [OpensBlock, ClosesBlock, trim_reverse, ← List.reverse_prefix]
  rfl

theorem dropClosing_of_not_closesBlock {line : List Char} (h : ¬ClosesBlock line) :
    dropClosing line = line := by
  rw [dropClosing_eq_reverse, dropOpening_of_not_opensBlock, List.reverse_reverse]
  rw [opensBlock_reverse_iff]
  exact h

theorem closesBlock_trim_iff {line : List Char} : ClosesBlock (trim line) ↔ ClosesBlock line := by
  rw [ClosesBlock, ClosesBlock, trim_trim]

theorem trim_dropClosing_trim (line : List Char) :
    trim (dropClosing (trim line)) = trim (dropClosing line) := by
  rw [dropClosing_eq_reverse, dropClosing_eq_reverse, trim_reverse, trim_reverse,
    ← trim_reverse line, trim_dropOpening_trim]

/-- A line that begins with a star that is not part of a closing mark. -/
def Starred (line : List Char) : Prop :=
  ['*'] <+: trim line ∧ ¬['*', '/'] <+: trim line

instance (line : List Char) : Decidable (Starred line) :=
  inferInstanceAs (Decidable (_ ∧ _))

theorem dropMarker_of_not_starred {line : List Char} (h : ¬Starred line) :
    dropMarker line = line := by
  obtain ⟨after, hafter, hleft⟩ := exists_trimLeft_eq line
  unfold dropMarker
  split
  · rfl
  · rename_i rest hslash hrest
    refine (h ⟨?_, ?_⟩).elim
    · rw [← prefix_append_blank_iff hafter (by decide), ← hleft, hrest]
      exact ⟨rest, rfl⟩
    · rw [← prefix_append_blank_iff hafter (by decide), ← hleft, hrest]
      rintro ⟨others, hothers⟩
      rw [List.cons_append, List.cons.injEq] at hothers
      exact hslash others hothers.2.symm
  · rfl

theorem exists_dropMarker_eq {line : List Char} (h : Starred line) :
    ∃ after, allBlank after = true ∧ dropMarker line = (trim line).tail ++ after := by
  obtain ⟨after, hafter, hleft⟩ := exists_trimLeft_eq line
  obtain ⟨⟨rest, hrest⟩, hslash⟩ := h
  refine ⟨after, hafter, ?_⟩
  rw [← prefix_append_blank_iff hafter (by decide), ← hleft] at hslash
  rw [← hrest] at hleft
  rw [← hrest, dropMarker, hleft]
  split
  · rename_i others hothers
    rw [hleft, hothers] at hslash
    exact (hslash ⟨others, rfl⟩).elim
  · rename_i others _ hothers
    exact (List.cons.inj hothers).2.symm
  · rename_i hnone
    exact (hnone _ rfl).elim

theorem starred_trim_iff {line : List Char} : Starred (trim line) ↔ Starred line := by
  rw [Starred, Starred, trim_trim]

theorem trim_dropMarker_trim (line : List Char) :
    trim (dropMarker (trim line)) = trim (dropMarker line) := by
  by_cases h : Starred line
  · obtain ⟨after, hafter, hline⟩ := exists_dropMarker_eq h
    obtain ⟨after', hafter', htrim⟩ := exists_dropMarker_eq (starred_trim_iff.mpr h)
    rw [hline, htrim, trim_trim, trim_append_right hafter, trim_append_right hafter']
  · rw [dropMarker_of_not_starred h, dropMarker_of_not_starred (starred_trim_iff.not.mpr h),
      trim_trim]

theorem not_break_of_trimmed {text : List Char} (h : Trimmed text) {c : Char}
    (hc : text.getLast? = some c) : isLineBreak c = false := by
  by_contra hbreak
  have hblank := isBlank_of_isLineBreak (by simpa using hbreak)
  rw [h.ending c hc] at hblank
  cases hblank

theorem opensBlock_iff {text : List Char} : OpensBlock text ↔ ['/', '*'] <+: trimLeft text := by
  obtain ⟨after, hafter, hleft⟩ := exists_trimLeft_eq text
  rw [OpensBlock, hleft, prefix_append_blank_iff hafter (by decide)]

theorem OpensBlock.append {text : List Char} (h : OpensBlock text) (others : List Char) :
    OpensBlock (text ++ others) := by
  rw [opensBlock_iff] at h ⊢
  have hne : (trimLeft text).isEmpty = false := by
    rw [List.isEmpty_eq_false_iff]
    rintro hnil
    rw [hnil] at h
    exact absurd h (by decide)
  rw [trimLeft, List.dropWhile_append, ← trimLeft, hne]
  exact h.trans (List.prefix_append _ others)

theorem ClosesBlock.append_left {text : List Char} (h : ClosesBlock text) (others : List Char) :
    ClosesBlock (others ++ text) := by
  rw [← opensBlock_reverse_iff, List.reverse_append]
  exact (opensBlock_reverse_iff.mpr h).append _

theorem opensBlock_of_start {text : List Char} (h : ['/', '*'] <+: text) : OpensBlock text := by
  obtain ⟨rest, rfl⟩ := h
  rw [opensBlock_iff]
  exact ⟨rest, rfl⟩

theorem closesBlock_of_ending {text : List Char} (h : ['*', '/'] <:+ text) : ClosesBlock text := by
  rw [← opensBlock_reverse_iff]
  apply opensBlock_of_start
  rw [← List.reverse_suffix]
  simpa using h

theorem opensBlock_first_iff {text line : List Char} {others : List (List Char)}
    (htrim : Trimmed text) (h : lines text = line :: others) :
    OpensBlock line ↔ OpensBlock text := by
  constructor
  · intro hopens
    obtain ⟨rest, rfl⟩ := prefix_of_lines_eq_cons h
    exact hopens.append rest
  · intro hopens
    rw [OpensBlock, htrim.trim_eq] at hopens
    exact opensBlock_of_start (start_isPrefix_line h hopens (by decide))

theorem closesBlock_last_iff {text line : List Char} (htrim : Trimmed text)
    (h : (lines text).getLast? = some line) : ClosesBlock line ↔ ClosesBlock text := by
  obtain ⟨hsuffix, hholds⟩ :=
    suffix_of_getLast?_lines h fun c hc => not_break_of_trimmed htrim hc
  constructor
  · intro hcloses
    obtain ⟨rest, rfl⟩ := hsuffix
    exact hcloses.append_left rest
  · intro hcloses
    rw [ClosesBlock, htrim.trim_eq] at hcloses
    exact closesBlock_of_ending (hholds _ hcloses (by decide))

theorem exists_line_of_opensBlock {raw : List Char} (h : OpensBlock raw) :
    ∃ line ∈ lines raw, OpensBlock line := by
  have hne : trim raw ≠ [] := by
    intro hnil
    rw [OpensBlock, hnil] at h
    exact absurd h (by decide)
  obtain ⟨line, others, hlines⟩ := List.exists_cons_of_ne_nil (lines_ne_nil hne)
  have hline : OpensBlock line :=
    (opensBlock_first_iff (trimmed_trim raw) hlines).mpr (opensBlock_trim_iff.mpr h)
  have hmem : line ∈ lines (trim raw) := by
    rw [hlines]
    exact List.mem_cons_self
  obtain ⟨whole, hwhole, htrim⟩ := exists_line_of_mem_trimmed hmem
  exact ⟨whole, hwhole, opensBlock_trim_iff.mp (htrim ▸ opensBlock_trim_iff.mpr hline)⟩

theorem exists_line_of_closesBlock {raw : List Char} (h : ClosesBlock raw) :
    ∃ line ∈ lines raw, ClosesBlock line := by
  have hne : trim raw ≠ [] := by
    intro hnil
    rw [ClosesBlock, hnil] at h
    exact absurd h (by decide)
  obtain ⟨line, hlast⟩ : ∃ line, (lines (trim raw)).getLast? = some line :=
    ⟨_, List.getLast?_eq_getLast_of_ne_nil (lines_ne_nil hne)⟩
  have hline : ClosesBlock line :=
    (closesBlock_last_iff (trimmed_trim raw) hlast).mpr (closesBlock_trim_iff.mpr h)
  obtain ⟨whole, hwhole, htrim⟩ := exists_line_of_mem_trimmed (List.mem_of_getLast? hlast)
  exact ⟨whole, hwhole, closesBlock_trim_iff.mp (htrim ▸ closesBlock_trim_iff.mpr hline)⟩

theorem dropOpening_suffix (line : List Char) : dropOpening line <:+ line := by
  unfold dropOpening
  split
  · rename_i rest h
    have hrest : rest <:+ trimLeft line := by
      rw [h]
      exact ⟨['/', '*'], rfl⟩
    exact ((List.dropWhile_suffix _).trans hrest).trans (List.dropWhile_suffix isBlank)
  · exact List.suffix_refl line

end SymbolReference.Comment

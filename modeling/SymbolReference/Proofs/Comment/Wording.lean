import SymbolReference.Proofs.Comment.Framing

namespace SymbolReference

namespace Text

/-- The number of characters other than white space. -/
def ink (s : List Char) : Nat :=
  s.countP fun c => !isBlank c

theorem ink_append (s t : List Char) : ink (s ++ t) = ink s + ink t :=
  List.countP_append

theorem ink_reverse (s : List Char) : ink s.reverse = ink s :=
  List.countP_reverse

theorem ink_of_allBlank {blanks : List Char} (h : allBlank blanks = true) : ink blanks = 0 := by
  rw [ink, List.countP_eq_zero]
  intro c hc
  simp [isBlank_of_mem h hc]

theorem ink_cons {c : Char} (hc : isBlank c = false) (s : List Char) :
    ink (c :: s) = ink s + 1 := by
  rw [ink, List.countP_cons_of_pos (by simp [hc]), ← ink]

theorem ink_trim (s : List Char) : ink (trim s) = ink s := by
  obtain ⟨before, after, hbefore, hafter, hs⟩ := exists_blanks_of_trim s
  calc
    ink (trim s) = ink before + ink (trim s) + ink after := by
      rw [ink_of_allBlank hbefore, ink_of_allBlank hafter, Nat.zero_add, Nat.add_zero]
    _ = ink s := by rw [← ink_append, ← ink_append, ← hs]

theorem flatten_splitOnP (s : List Char) :
    (s.splitOnP isBlank).flatten = s.filter fun c => !isBlank c := by
  induction s with
  | nil => rfl
  | cons c s ih =>
      rw [List.splitOnP_cons_eq_if_modifyHead]
      by_cases hc : isBlank c = true
      · rw [if_pos hc, List.filter_cons_of_neg (by simp [hc]), List.flatten_cons, ih,
          List.nil_append]
      · obtain ⟨piece, pieces, hpieces⟩ :=
          List.exists_cons_of_ne_nil (List.splitOnP_ne_nil isBlank s)
        rw [hpieces, List.flatten_cons] at ih
        rw [if_neg hc, List.filter_cons_of_pos (by simp [hc]), hpieces, List.modifyHead_cons,
          List.flatten_cons, List.cons_append, ih]

theorem length_flatten_words (s : List Char) : (words s).flatten.length = ink s := by
  rw [words_eq_splitOnP, List.flatten_filter_not_isEmpty, flatten_splitOnP, ink,
    List.countP_eq_length_filter]

end Text

namespace Comment

open Text

/-- The words of a comment in order: those of its description, then those of each tag with the mark
before its name. -/
def shownWords (c : Comment) : List (List Char) :=
  words c.description.toList ++ c.tags.flatMap fun tag => words (tagText tag)

theorem shownWords_ofContentLines (content : List (List Char)) :
    (ofContentLines content).shownWords = content.flatMap words := by
  obtain ⟨leading, groups, plain, rfl⟩ := sectionsOf content
  have htags : (groups.map fun group =>
      tagOf group.opening group.following).flatMap (fun tag => words (tagText tag)) =
        (groups.flatMap TagGroup.lines).flatMap words := by
    rw [List.flatMap_map, List.flatMap_assoc]
    exact List.flatMap_congr fun group _ => words_tagOf group
  rw [ofContentLines_eq ⟨leading, groups, plain, rfl⟩, shownWords, htags, words_flow,
    List.flatMap_append]

theorem length_flatten_flatMap_words (content : List (List Char)) :
    (content.flatMap words).flatten.length = ink content.flatten := by
  induction content with
  | nil => rfl
  | cons line others ih =>
      rw [List.flatMap_cons, List.flatten_append, List.length_append, length_flatten_words, ih,
        List.flatten_cons, ink_append]

theorem length_shownWords_ofContentLines (content : List (List Char)) :
    (ofContentLines content).shownWords.flatten.length = ink content.flatten := by
  rw [shownWords_ofContentLines, length_flatten_flatMap_words]

theorem ink_dropMarker (line : List Char) :
    ink line = ink (dropMarker line) + if Starred line then 1 else 0 := by
  by_cases h : Starred line
  · obtain ⟨after, hafter, hline⟩ := exists_dropMarker_eq h
    obtain ⟨rest, hrest⟩ := h.1
    rw [if_pos h, hline, ink_append, ink_of_allBlank hafter, ← ink_trim line, ← hrest]
    exact ink_cons (by decide) rest
  · rw [if_neg h, dropMarker_of_not_starred h, Nat.add_zero]

theorem ink_dropMarker_le (line : List Char) : ink (dropMarker line) ≤ ink line := by
  have h := ink_dropMarker line
  omega

theorem ink_dropOpening_lt {line : List Char} (h : OpensBlock line) :
    ink (dropOpening line) + 1 < ink line := by
  obtain ⟨after, hafter, hline⟩ := exists_dropOpening_eq h
  obtain ⟨rest, hrest⟩ := h
  have hstars : ink (dropStars rest) ≤ ink rest :=
    (List.dropWhile_sublist _).countP_le
  have htrim : ink line = ink rest + 1 + 1 := by
    rw [← ink_trim line, ← hrest]
    exact (ink_cons (by decide) _).trans (congrArg (· + 1) (ink_cons (by decide) rest))
  rw [hline, ← hrest, ink_append, ink_of_allBlank hafter, htrim]
  change ink (dropStars rest) + 0 + 1 < _
  omega

theorem ink_dropOpening_le (line : List Char) : ink (dropOpening line) ≤ ink line := by
  by_cases h : OpensBlock line
  · have hlt := ink_dropOpening_lt h
    omega
  · rw [dropOpening_of_not_opensBlock h]

theorem ink_dropClosing_lt {line : List Char} (h : ClosesBlock line) :
    ink (dropClosing line) + 1 < ink line := by
  have hlt := ink_dropOpening_lt (opensBlock_reverse_iff.mpr h)
  rw [dropClosing_eq_reverse, ink_reverse]
  rwa [ink_reverse] at hlt

theorem ink_dropClosing_le (line : List Char) : ink (dropClosing line) ≤ ink line := by
  have hle := ink_dropOpening_le line.reverse
  rw [dropClosing_eq_reverse, ink_reverse]
  rwa [ink_reverse] at hle

end Comment

end SymbolReference

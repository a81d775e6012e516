import SymbolReference.Proofs.Comment.Wording

namespace SymbolReference.Comment

open Text

theorem not_starred_of_opensBlock {line : List Char} (h : OpensBlock line) : ¬Starred line := by
  rintro ⟨hstar, -⟩
  obtain ⟨rest, hrest⟩ := h
  rw [← hrest] at hstar
  exact absurd (List.cons_prefix_cons.mp hstar).1 (by decide)

theorem ink_dropMarker_dropOpening_lt {line : List Char} (h : OpensBlock line) :
    ink (dropMarker (dropOpening line)) < ink (dropMarker line) := by
  have hmarker := ink_dropMarker_le (dropOpening line)
  have hopening := ink_dropOpening_lt h
  rw [dropMarker_of_not_starred (not_starred_of_opensBlock h)]
  omega

theorem ink_dropMarker_dropClosing_lt {line : List Char} (h : ClosesBlock line) :
    ink (dropMarker (dropClosing line)) < ink (dropMarker line) := by
  have hmarker := ink_dropMarker_le (dropClosing line)
  have hclosing := ink_dropClosing_lt h
  have hstar : ink line ≤ ink (dropMarker line) + 1 := by
    rw [ink_dropMarker line]
    split
    · exact Nat.le_refl _
    · exact Nat.le_succ _
  omega

theorem not_starred_slash (s : List Char) : ¬Starred ('/' :: s) := by
  rintro ⟨hstar, -⟩
  obtain ⟨after, -, hleft⟩ := exists_trimLeft_eq ('/' :: s)
  have hline : ['*'] <+: '/' :: s := by
    have htrim := hstar.trans (List.prefix_append _ after)
    rw [← hleft] at htrim
    exact htrim
  exact absurd (List.cons_prefix_cons.mp hline).1 (by decide)

/-- Stars and one more character are no closing mark, unless they form an empty block. -/
theorem two_le_length_of_closes {mark after : List Char} {c : Char} (hc : c ≠ '*')
    (hcloses : ['*', '/'] <:+ mark ++ c :: after) (hshared : c :: after ≠ ['/']) :
    2 ≤ after.length := by
  obtain ⟨before, hbefore⟩ := hcloses
  rcases after with _ | ⟨d, _ | ⟨e, after⟩⟩
  · have hlast := congrArg List.getLast? hbefore
    rw [List.getLast?_concat, List.getLast?_append_of_ne_nil _ (by simp)] at hlast
    have hslash : c = '/' := by simpa using hlast.symm
    exact (hshared (by rw [hslash])).elim
  · have htwo : ['*', '/'] = [c, d] := List.append_inj_right' hbefore rfl
    rw [List.cons.injEq] at htwo
    exact (hc htwo.1.symm).elim
  · exact Nat.le_add_left 2 after.length

theorem exists_between_marks {text : List Char} (htrim : Trimmed text) (hopens : OpensBlock text)
    (hcloses : ClosesBlock text) (hblock : isEmptyBlock text = false) :
    ∃ mark c middle, c ≠ '*' ∧ text = '/' :: mark ++ c :: (middle ++ ['*', '/']) ∧
      dropOpening text = c :: (middle ++ ['*', '/']) := by
  rw [OpensBlock, htrim.trim_eq] at hopens
  rw [ClosesBlock, htrim.trim_eq] at hcloses
  obtain ⟨rest, rfl⟩ := hopens
  have hopening : dropOpening (['/', '*'] ++ rest) = dropStars rest := by
    rw [dropOpening, htrim.trimLeft_eq]
    rfl
  have hshared : dropStars rest ≠ ['/'] := by
    rw [isEmptyBlock, htrim.trim_eq] at hblock
    simpa using hblock
  have hsplit : ['/', '*'] ++ rest =
      '/' :: ('*' :: rest.takeWhile (· = '*')) ++ dropStars rest := by
    simp [dropStars]
  rw [hopening]
  rcases hstars : dropStars rest with _ | ⟨c, after⟩
  · -- Stars alone do not end with a slash.
    have hall := List.dropWhile_eq_nil_iff.mp hstars
    have hmem : '/' ∈ '*' :: rest := by
      obtain ⟨before, hbefore⟩ := hcloses
      apply List.mem_of_getLast?
      have hlast := congrArg List.getLast? hbefore
      rw [List.getLast?_append_of_ne_nil _ (by simp)] at hlast
      exact hlast.symm
    rcases List.mem_cons.mp hmem with heq | hmem
    · exact absurd heq (by decide)
    · exact absurd (hall _ hmem) (by decide)
  · have hc : c ≠ '*' := by
      have hhead := List.head?_dropWhile_not (fun d => decide (d = '*')) rest
      rw [← dropStars, hstars] at hhead
      simpa using hhead
    rw [hstars] at hsplit hshared
    rw [hsplit] at hcloses ⊢
    have hsuffix : after <:+ '/' :: ('*' :: rest.takeWhile (· = '*')) ++ c :: after :=
      (List.suffix_cons c after).trans (List.suffix_append _ _)
    obtain ⟨middle, rfl⟩ := List.suffix_of_suffix_length_le hcloses hsuffix
      (two_le_length_of_closes hc hcloses hshared)
    exact ⟨'*' :: rest.takeWhile (· = '*'), c, middle, hc, rfl, rfl⟩

theorem dropClosing_concat {c : Char} (hc : c ≠ '*') (before middle : List Char) :
    dropClosing (before ++ c :: (middle ++ ['*', '/'])) =
      before ++ c :: (dropStars middle.reverse).reverse := by
  have hreverse : (before ++ c :: (middle ++ ['*', '/'])).reverse =
      '/' :: '*' :: (middle.reverse ++ c :: before.reverse) := by
    simp
  have hstars : dropStars (middle.reverse ++ c :: before.reverse) =
      dropStars middle.reverse ++ c :: before.reverse := by
    rw [dropStars, List.dropWhile_append, List.dropWhile_cons_of_neg (by simpa using hc)]
    split
    · rename_i hnil
      rw [dropStars, List.isEmpty_iff.mp hnil, List.nil_append]
    · rfl
  rw [dropClosing_eq_reverse, hreverse, dropOpening]
  change (dropStars (middle.reverse ++ c :: before.reverse)).reverse = _
  rw [hstars]
  simp

theorem ink_single_opens_lt {text : List Char} (htrim : Trimmed text)
    (hblock : isEmptyBlock text = false) (h : OpensBlock text) (closes : Bool) :
    ink (dropMarker (beforeClosing closes (dropOpening text))) <
      ink (dropMarker (beforeClosing closes text)) := by
  cases closes with
  | false => exact ink_dropMarker_dropOpening_lt h
  | true =>
      change ink (dropMarker (dropClosing (dropOpening text))) < ink (dropMarker (dropClosing text))
      by_cases hcloses : ClosesBlock text
      · obtain ⟨mark, c, middle, hc, htext, hopening⟩ :=
          exists_between_marks htrim h hcloses hblock
        have hclosing := dropClosing_concat hc [] middle
        rw [List.nil_append, List.nil_append] at hclosing
        have hle := ink_dropMarker_le (c :: (dropStars middle.reverse).reverse)
        rw [hopening, hclosing, htext, dropClosing_concat hc ('/' :: mark) middle, List.cons_append,
          dropMarker_of_not_starred (not_starred_slash _), ink_cons (by decide), ink_append]
        omega
      · have hmarker := ink_dropMarker_le (dropClosing (dropOpening text))
        have hclosing := ink_dropClosing_le (dropOpening text)
        have hopening := ink_dropOpening_lt h
        rw [dropClosing_of_not_closesBlock hcloses,
          dropMarker_of_not_starred (not_starred_of_opensBlock h)]
        omega

theorem ink_single_closes_lt {text : List Char} (htrim : Trimmed text)
    (hblock : isEmptyBlock text = false) (h : ClosesBlock text) (opens : Bool) :
    ink (dropMarker (dropClosing (afterOpening opens text))) <
      ink (dropMarker (afterOpening opens text)) := by
  apply ink_dropMarker_dropClosing_lt
  cases opens with
  | false => exact h
  | true =>
      by_cases hopens : OpensBlock text
      · obtain ⟨mark, c, middle, -, -, hopening⟩ := exists_between_marks htrim hopens h hblock
        apply closesBlock_of_ending
        refine ⟨c :: middle, ?_⟩
        rw [List.cons_append]
        exact hopening.symm
      · rw [afterOpening_of_not hopens]
        exact h

/-- The ink of a comment whose marks are looked for or not. -/
def contentInk (opens closes : Bool) (text : List Char) : Nat :=
  ink (contentOf opens closes (lines text)).flatten

theorem contentInk_opens_lt {text : List Char} (htrim : Trimmed text)
    (hblock : isEmptyBlock text = false) (h : OpensBlock text) (closes : Bool) :
    contentInk true closes text < contentInk false closes text := by
  rw [contentInk, contentInk]
  rcases eq_nil_or_singleton_or_ends (lines text) with
    hlines | ⟨line, hlines⟩ | ⟨first, middle, last, hlines⟩
  · have hne : text ≠ [] := by
      rintro rfl
      exact absurd h (by decide)
    exact (lines_ne_nil hne hlines).elim
  · obtain rfl := eq_of_lines_eq_singleton hlines fun c hc => not_break_of_trimmed htrim hc
    rw [hlines, contentOf_singleton, contentOf_singleton, List.flatten_singleton,
      List.flatten_singleton, ink_trim, ink_trim]
    exact ink_single_opens_lt htrim hblock h closes
  · have hfirst := ink_dropMarker_dropOpening_lt ((opensBlock_first_iff htrim hlines).mpr h)
    rw [hlines, contentOf_cons_concat, contentOf_cons_concat, List.flatten_cons, List.flatten_cons,
      ink_append, ink_append, ink_trim, ink_trim]
    exact Nat.add_lt_add_right hfirst _

theorem contentInk_closes_lt {text : List Char} (htrim : Trimmed text)
    (hblock : isEmptyBlock text = false) (h : ClosesBlock text) (opens : Bool) :
    contentInk opens true text < contentInk opens false text := by
  rw [contentInk, contentInk]
  rcases eq_nil_or_singleton_or_ends (lines text) with
    hlines | ⟨line, hlines⟩ | ⟨first, middle, last, hlines⟩
  · have hne : text ≠ [] := by
      rintro rfl
      exact absurd h (by decide)
    exact (lines_ne_nil hne hlines).elim
  · obtain rfl := eq_of_lines_eq_singleton hlines fun c hc => not_break_of_trimmed htrim hc
    rw [hlines, contentOf_singleton, contentOf_singleton, List.flatten_singleton,
      List.flatten_singleton, ink_trim, ink_trim]
    exact ink_single_closes_lt htrim hblock h opens
  · have hlast : (lines text).getLast? = some last := by
      rw [hlines, ← List.cons_append, List.getLast?_concat]
    have hlt := ink_dropMarker_dropClosing_lt ((closesBlock_last_iff htrim hlast).mpr h)
    rw [hlines, contentOf_cons_concat, contentOf_cons_concat]
    simp only [List.flatten_cons, List.flatten_append, List.flatten_nil, ink_append, ink_trim]
    change _ + (_ + (ink (dropMarker (dropClosing last)) + _)) <
      _ + (_ + (ink (dropMarker last) + _))
    omega

theorem contentInk_false_le {text : List Char} (htrim : Trimmed text)
    (hblock : isEmptyBlock text = false) (opens closes : Bool) :
    contentInk opens closes text ≤ contentInk false closes text ∧
      contentInk opens closes text ≤ contentInk opens false text := by
  constructor
  · by_cases h : OpensBlock text
    · cases opens with
      | false => exact Nat.le_refl _
      | true => exact (contentInk_opens_lt htrim hblock h closes).le
    · rw [contentInk, contentOf_opens_eq htrim h]
      exact Nat.le_refl _
  · by_cases h : ClosesBlock text
    · cases closes with
      | false => exact Nat.le_refl _
      | true => exact (contentInk_closes_lt htrim hblock h opens).le
    · rw [contentInk, contentOf_closes_eq htrim h]
      exact Nat.le_refl _

theorem length_shownWords_readTrimmed {text : List Char} (hblock : isEmptyBlock text = false)
    (opens closes : Bool) :
    (readTrimmed opens closes text).shownWords.flatten.length = contentInk opens closes text := by
  rw [readTrimmed, if_neg (by simp [hblock]), length_shownWords_ofContentLines, contentInk]

theorem firstLineShows_of_padded {before raw after : List Char} (hbefore : allBlank before = true)
    (hafter : allBlank after = true) (h : firstLineShows (before ++ raw ++ after) = true) :
    firstLineShows raw = true := by
  obtain ⟨above, below, hlines⟩ := exists_trim_lines_padded hbefore hafter raw
  rw [firstLineShows_eq, hlines] at h
  rw [firstLineShows_eq]
  cases above with
  | zero =>
      rcases hraw : (lines raw).map trim with _ | ⟨line, others⟩
      · rw [hraw] at h
        cases below with
        | zero => exact absurd h (by decide)
        | succ below => exact absurd h (by simp [List.replicate_succ])
      · rw [hraw] at h
        exact h
  | succ above => exact absurd h (by simp [List.replicate_succ])

theorem lastLineShows_of_padded {before raw after : List Char} (hbefore : allBlank before = true)
    (hafter : allBlank after = true) (h : lastLineShows (before ++ raw ++ after) = true) :
    lastLineShows raw = true := by
  obtain ⟨above, below, hlines⟩ := exists_trim_lines_padded hbefore hafter raw
  rw [lastLineShows_eq, hlines] at h
  rw [lastLineShows_eq]
  cases below with
  | zero =>
      rw [List.replicate_zero, List.append_nil] at h
      rcases List.eq_nil_or_concat' ((lines raw).map trim) with hraw | ⟨others, line, hraw⟩
      · rw [hraw, List.append_nil] at h
        cases above with
        | zero => exact absurd h (by decide)
        | succ above =>
            rw [List.replicate_succ', List.getLast?_concat] at h
            exact absurd h (by decide)
      · rw [hraw, ← List.append_assoc, List.getLast?_concat] at h
        rw [hraw, List.getLast?_concat]
        exact h
  | succ below =>
      rw [List.replicate_succ', ← List.append_assoc, List.getLast?_concat] at h
      exact absurd h (by decide)

theorem readTrimmed_congr {text : List Char} (htrim : Trimmed text)
    {opens opens' closes closes' : Bool}
    (hopens : OpensBlock text → opens = opens') (hcloses : ClosesBlock text → closes = closes') :
    readTrimmed opens closes text = readTrimmed opens' closes' text := by
  have hopened : contentOf opens closes (lines text) = contentOf opens' closes (lines text) := by
    by_cases h : OpensBlock text
    · rw [hopens h]
    · rw [contentOf_opens_eq htrim h, contentOf_opens_eq htrim h opens']
  have hclosed : contentOf opens' closes (lines text) = contentOf opens' closes' (lines text) := by
    by_cases h : ClosesBlock text
    · rw [hcloses h]
    · rw [contentOf_closes_eq htrim h, contentOf_closes_eq htrim h opens' closes']
  rw [readTrimmed, readTrimmed, hopened, hclosed]

/-- A mark that is found in one reading only makes the readings differ. -/
theorem eq_of_readTrimmed_eq {text : List Char} (htrim : Trimmed text)
    (hblock : isEmptyBlock text = false) {opens opens' closes closes' : Bool}
    (hopens : opens' = true → opens = true) (hcloses : closes' = true → closes = true)
    (h : readTrimmed opens' closes' text = readTrimmed opens closes text) :
    (OpensBlock text → opens' = opens) ∧ (ClosesBlock text → closes' = closes) := by
  -- The readings are told apart by the number of characters that they keep.
  have hink : contentInk opens' closes' text = contentInk opens closes text := by
    rw [← length_shownWords_readTrimmed hblock, ← length_shownWords_readTrimmed hblock, h]
  constructor
  · intro hmark
    cases opens' with
    | true => exact (hopens rfl).symm
    | false =>
        cases opens with
        | false => rfl
        | true =>
            have hlt := contentInk_opens_lt htrim hblock hmark closes
            have hle : contentInk false closes text ≤ contentInk false closes' text := by
              cases closes' with
              | false => exact (contentInk_false_le htrim hblock false closes).2
              | true => rw [hcloses rfl]
            omega
  · intro hmark
    cases closes' with
    | true => exact (hcloses rfl).symm
    | false =>
        cases closes with
        | false => rfl
        | true =>
            have hlt := contentInk_closes_lt htrim hblock hmark opens
            have hle : contentInk opens false text ≤ contentInk opens' false text := by
              cases opens' with
              | false => exact (contentInk_false_le htrim hblock opens false).1
              | true => rw [hopens rfl]
            omega

theorem trim_padded {before raw after : List Char} (hbefore : allBlank before = true)
    (hafter : allBlank after = true) : trim (before ++ raw ++ after) = trim raw := by
  rw [trim_append_right hafter, trim_append_left hbefore]

/-- White space around a text leaves the comment as it is exactly if it leaves the marks on the
lines where they are looked for: the opening mark on the first line, the closing mark on the last.
An empty block stays empty whatever surrounds it. -/
theorem parse_padded_eq_iff {before raw after : String} (hbefore : allBlank before.toList = true)
    (hafter : allBlank after.toList = true) :
    parse? (some (before ++ raw ++ after)) = parse? (some raw) ↔
      isEmptyBlock raw.toList = true ∨
        (OpensBlock raw.toList →
          firstLineShows (before ++ raw ++ after).toList = firstLineShows raw.toList) ∧
        (ClosesBlock raw.toList →
          lastLineShows (before ++ raw ++ after).toList = lastLineShows raw.toList) := by
  have htext : (before ++ raw ++ after).toList =
      before.toList ++ raw.toList ++ after.toList := by
    rw [String.toList_append, String.toList_append]
  rw [parse?_eq_readTrimmed, parse?_eq_readTrimmed, htext, trim_padded hbefore hafter,
    ← isEmptyBlock_trim, ← opensBlock_trim_iff, ← closesBlock_trim_iff]
  have htrim := trimmed_trim raw.toList
  constructor
  · intro heq
    by_cases hblock : isEmptyBlock (trim raw.toList) = true
    · exact Or.inl hblock
    · refine Or.inr (eq_of_readTrimmed_eq htrim (by simpa using hblock) ?_ ?_ heq)
      · exact firstLineShows_of_padded hbefore hafter
      · exact lastLineShows_of_padded hbefore hafter
  · rintro (hblock | ⟨hopens, hcloses⟩)
    · rw [readTrimmed, readTrimmed, if_pos hblock, if_pos hblock]
    · exact readTrimmed_congr htrim hopens hcloses

/-- Spaces before a block and a line end after it change nothing; a line break before it keeps the
opening mark in the description. -/
theorem parse_padded_eq_iff_greeting :
    parse? (some (" \t" ++ "/** Hi. */" ++ "\n")) = parse? (some "/** Hi. */") ∧
      parse? (some ("\n" ++ "/** Hi. */" ++ "")) ≠ parse? (some "/** Hi. */") := by
  constructor
  · rw [parse_padded_eq_iff (by decide) (by decide)]
    decide
  · rw [Ne, parse_padded_eq_iff (by decide) (by decide)]
    decide

/-- White space around a comment can change it: a block after a line break keeps its opening mark
as text, and a block before an empty line its closing mark. -/
theorem parse_keeps_mark_off_its_line :
    parse? (some "/** Hi. */") = ⟨"Hi.", []⟩ ∧
      parse? (some ("\n" ++ "/** Hi. */" ++ "")) = ⟨"/** Hi.", []⟩ ∧
      parse? (some ("" ++ "/** Hi. */" ++ "\n\n")) = ⟨"Hi. */", []⟩ := by
  decide

end SymbolReference.Comment

import SymbolReference.Proofs.Comment.Marks

/-!
The marks of a block are looked for on the first and the last line of a text only, and empty content
lines leave no trace in a comment. So a comment depends on the trimmed text, on whether its first
line shows something, and on whether its last line does.
-/

namespace SymbolReference.Comment

open Text

/-- A line without its opening mark, if that is looked for. -/
def afterOpening (opens : Bool) (line : List Char) : List Char :=
  if opens then dropOpening line else line

/-- A line without its closing mark, if that is looked for. -/
def beforeClosing (closes : Bool) (line : List Char) : List Char :=
  if closes then dropClosing line else line

/-- The content of lines of which the first is searched for an opening mark if `opens`, and the last
for a closing mark if `closes`. -/
def contentOf (opens closes : Bool) (content : List (List Char)) : List (List Char) :=
  (mapLast (beforeClosing closes) (mapFirst (afterOpening opens) content)).map fun line =>
    trim (dropMarker line)

theorem contentLines_eq (raw : List Char) :
    contentLines raw = if isEmptyBlock raw then [] else contentOf true true (lines raw) :=
  rfl

theorem contentOf_singleton (opens closes : Bool) (line : List Char) :
    contentOf opens closes [line] =
      [trim (dropMarker (beforeClosing closes (afterOpening opens line)))] :=
  rfl

theorem contentOf_cons_concat (opens closes : Bool) (first : List Char)
    (middle : List (List Char)) (last : List Char) :
    contentOf opens closes (first :: (middle ++ [last])) =
      trim (dropMarker (afterOpening opens first)) ::
        ((middle.map fun line => trim (dropMarker line)) ++
          [trim (dropMarker (beforeClosing closes last))]) := by
  rw [contentOf, mapFirst, ← List.cons_append, mapLast_concat]
  simp only [List.cons_append, List.map_cons, List.map_append, List.map_nil]

theorem trim_afterOpening_trim (opens : Bool) (line : List Char) :
    trim (afterOpening opens (trim line)) = trim (afterOpening opens line) := by
  cases opens with
  | false => exact trim_trim line
  | true => exact trim_dropOpening_trim line

theorem trim_beforeClosing_trim (closes : Bool) (line : List Char) :
    trim (beforeClosing closes (trim line)) = trim (beforeClosing closes line) := by
  cases closes with
  | false => exact trim_trim line
  | true => exact trim_dropClosing_trim line

theorem trim_dropMarker_congr {line other : List Char} (h : trim line = trim other) :
    trim (dropMarker line) = trim (dropMarker other) := by
  rw [← trim_dropMarker_trim line, h, trim_dropMarker_trim]

theorem eq_nil_or_singleton_or_ends {α : Type} (xs : List α) :
    xs = [] ∨ (∃ x, xs = [x]) ∨ ∃ first middle last, xs = first :: (middle ++ [last]) := by
  rcases xs with _ | ⟨first, others⟩
  · exact Or.inl rfl
  · rcases List.eq_nil_or_concat' others with rfl | ⟨middle, last, rfl⟩
    · exact Or.inr (Or.inl ⟨first, rfl⟩)
    · exact Or.inr (Or.inr ⟨first, middle, last, rfl⟩)

theorem contentOf_map_trim (opens closes : Bool) (content : List (List Char)) :
    contentOf opens closes (content.map trim) = contentOf opens closes content := by
  rcases eq_nil_or_singleton_or_ends content with rfl | ⟨line, rfl⟩ | ⟨first, middle, last, rfl⟩
  · rfl
  · have hclosing : trim (beforeClosing closes (afterOpening opens (trim line))) =
        trim (beforeClosing closes (afterOpening opens line)) := by
      rw [← trim_beforeClosing_trim, trim_afterOpening_trim, trim_beforeClosing_trim]
    rw [List.map_singleton, contentOf_singleton, contentOf_singleton,
      trim_dropMarker_congr hclosing]
  · rw [List.map_cons, List.map_append, List.map_singleton, contentOf_cons_concat,
      contentOf_cons_concat, trim_dropMarker_congr (trim_afterOpening_trim opens first),
      trim_dropMarker_congr (trim_beforeClosing_trim closes last), List.map_map]
    simp only [Function.comp_def, trim_dropMarker_trim]

theorem afterOpening_nil (opens : Bool) : afterOpening opens [] = [] := by
  cases opens with
  | false => rfl
  | true => rfl

theorem beforeClosing_nil (closes : Bool) : beforeClosing closes [] = [] := by
  cases closes with
  | false => rfl
  | true => rfl

/-- Below an empty line no opening mark is found. -/
theorem contentOf_nil_cons (opens closes : Bool) (content : List (List Char)) :
    contentOf opens closes ([] :: content) = [] :: contentOf false closes content := by
  rcases eq_nil_or_singleton_or_ends content with rfl | ⟨line, rfl⟩ | ⟨first, middle, last, rfl⟩
  · rw [contentOf_singleton, afterOpening_nil, beforeClosing_nil]
    rfl
  · rw [← List.nil_append [line], contentOf_cons_concat, afterOpening_nil]
    rfl
  · have hpadded := contentOf_cons_concat opens closes [] (first :: middle) last
    rw [afterOpening_nil] at hpadded
    rw [contentOf_cons_concat false]
    exact hpadded

/-- Above an empty line no closing mark is found. -/
theorem contentOf_concat_nil (opens closes : Bool) (content : List (List Char)) :
    contentOf opens closes (content ++ [[]]) = contentOf opens false content ++ [[]] := by
  rcases content with _ | ⟨first, others⟩
  · rw [List.nil_append, contentOf_singleton, afterOpening_nil, beforeClosing_nil]
    rfl
  · rw [List.cons_append, contentOf_cons_concat, beforeClosing_nil]
    rcases List.eq_nil_or_concat' others with rfl | ⟨middle, last, rfl⟩
    · rfl
    · rw [contentOf_cons_concat, List.map_append]
      rfl

theorem contentOf_replicate_append (opens closes : Bool) (above : Nat)
    (content : List (List Char)) :
    contentOf opens closes (List.replicate above [] ++ content) =
      List.replicate above [] ++ contentOf (opens && above == 0) closes content := by
  induction above generalizing opens with
  | zero => simp
  | succ above ih =>
      rw [List.replicate_succ, List.cons_append, contentOf_nil_cons, ih, List.cons_append,
        Bool.false_and]
      simp

theorem contentOf_append_replicate (opens closes : Bool) (content : List (List Char))
    (below : Nat) :
    contentOf opens closes (content ++ List.replicate below []) =
      contentOf opens (closes && below == 0) content ++ List.replicate below [] := by
  induction below generalizing closes with
  | zero => simp
  | succ below ih =>
      rw [List.replicate_succ', ← List.append_assoc, contentOf_concat_nil, ih, List.append_assoc,
        Bool.false_and]
      simp

theorem flow_filter (parts : List (List Char)) :
    flow (parts.filter fun part => !part.isEmpty) = flow parts := by
  rw [flow, flow, List.filter_filter]
  simp only [Bool.and_self]

theorem filter_takeWhile_filter {α : Type} {keeps goesOn : α → Bool}
    (h : ∀ x, keeps x = false → goesOn x = true) (xs : List α) :
    ((xs.filter keeps).takeWhile goesOn).filter keeps = (xs.takeWhile goesOn).filter keeps := by
  induction xs with
  | nil => rfl
  | cons x xs ih =>
      by_cases hkeeps : keeps x = true
      · rw [List.filter_cons_of_pos hkeeps]
        by_cases hgoes : goesOn x = true
        · rw [List.takeWhile_cons_of_pos hgoes, List.takeWhile_cons_of_pos hgoes,
            List.filter_cons_of_pos hkeeps, List.filter_cons_of_pos hkeeps, ih]
        · rw [List.takeWhile_cons_of_neg hgoes, List.takeWhile_cons_of_neg hgoes]
      · have hgoes : goesOn x = true := h x (by simpa using hkeeps)
        rw [List.filter_cons_of_neg hkeeps, List.takeWhile_cons_of_pos hgoes,
          List.filter_cons_of_neg hkeeps, ih]

theorem not_opensTag_of_isEmpty (line : List Char) (h : (!line.isEmpty) = false) :
    (!opensTag line) = true := by
  have hnil : line = [] := by simpa using h
  subst hnil
  rfl

theorem flow_cons_filter (part : List Char) (parts : List (List Char)) :
    flow (part :: parts.filter fun part => !part.isEmpty) = flow (part :: parts) := by
  rw [← flow_filter (part :: parts), ← flow_filter (part :: _), List.filter_cons, List.filter_cons,
    List.filter_filter]
  simp only [Bool.and_self]

theorem tagOf_filter (opening : List Char) (following : List (List Char)) :
    tagOf opening (following.filter fun line => !line.isEmpty) = tagOf opening following := by
  rw [tagOf, tagOf]
  simp only [flow_cons_filter]

theorem tagsOf_filter (content : List (List Char)) :
    tagsOf (content.filter fun line => !line.isEmpty) = tagsOf content := by
  induction content with
  | nil => rfl
  | cons line others ih =>
      by_cases hopens : opensTag line = true
      · have hshown : (!line.isEmpty) = true := by
          obtain ⟨rest, rfl⟩ := exists_of_opensTag hopens
          rfl
        rw [List.filter_cons, if_pos hshown, tagsOf, tagsOf, if_pos hopens, if_pos hopens, ih,
          ← tagOf_filter, filter_takeWhile_filter not_opensTag_of_isEmpty, tagOf_filter]
      · rw [tagsOf, if_neg hopens]
        by_cases hshown : (!line.isEmpty) = true
        · rw [List.filter_cons, if_pos hshown, tagsOf, if_neg hopens, ih]
        · rw [List.filter_cons, if_neg hshown, ih]

theorem ofContentLines_filter (content : List (List Char)) :
    ofContentLines (content.filter fun line => !line.isEmpty) = ofContentLines content := by
  rw [ofContentLines, ofContentLines, tagsOf_filter, ← flow_filter,
    filter_takeWhile_filter not_opensTag_of_isEmpty, flow_filter]

theorem ofContentLines_framed (above below : Nat) (content : List (List Char)) :
    ofContentLines (List.replicate above [] ++ content ++ List.replicate below []) =
      ofContentLines content := by
  rw [← ofContentLines_filter, List.filter_append, List.filter_append, List.filter_replicate,
    List.filter_replicate, ← ofContentLines_filter content]
  simp

/-- Whether the first line of a text shows anything. -/
def firstLineShows (raw : List Char) : Bool :=
  (lines raw).head?.any fun line => !allBlank line

/-- Whether the last line of a text shows anything. -/
def lastLineShows (raw : List Char) : Bool :=
  (lines raw).getLast?.any fun line => !allBlank line

/-- The comment of a trimmed text, whose opening mark is found if `opens` and whose closing mark is
found if `closes`. -/
def readTrimmed (opens closes : Bool) (text : List Char) : Comment :=
  if isEmptyBlock text then empty else ofContentLines (contentOf opens closes (lines text))

theorem allBlank_eq_isEmpty_trim (line : List Char) : allBlank line = (trim line).isEmpty := by
  rw [Bool.eq_iff_iff, List.isEmpty_iff, trim_eq_nil_iff]

theorem firstLineShows_eq (raw : List Char) :
    firstLineShows raw = ((lines raw).map trim).head?.any fun line => !line.isEmpty := by
  rw [firstLineShows, List.head?_map, Option.any_map]
  simp only [allBlank_eq_isEmpty_trim]

theorem lastLineShows_eq (raw : List Char) :
    lastLineShows raw = ((lines raw).map trim).getLast?.any fun line => !line.isEmpty := by
  rw [lastLineShows, List.getLast?_map, Option.any_map]
  simp only [allBlank_eq_isEmpty_trim]

theorem exists_head?_trimmed {text : List Char} (h : Trimmed text) (hne : text ≠ []) :
    ∃ line, (lines text).head? = some line ∧ trim line ≠ [] := by
  obtain ⟨line, others, hlines⟩ := List.exists_cons_of_ne_nil (lines_ne_nil hne)
  refine ⟨line, by rw [hlines]; rfl, ?_⟩
  obtain ⟨ending, rest, htext, -, hbreaks, hnone⟩ := exists_of_lines_eq_cons hlines
  intro hblank
  rw [trim_eq_nil_iff] at hblank
  rcases line with _ | ⟨c, line⟩
  · rcases ending with _ | ⟨c, ending⟩
    · exact hne (by rw [htext, hnone rfl]; rfl)
    · have hc : isBlank c = true := isBlank_of_isLineBreak (hbreaks c (by simp))
      rw [h.start c (by rw [htext]; rfl)] at hc
      cases hc
  · have hc : isBlank c = true := isBlank_of_mem hblank (by simp)
    rw [h.start c (by rw [htext]; rfl)] at hc
    cases hc

theorem exists_getLast?_trimmed {text : List Char} (h : Trimmed text) (hne : text ≠ []) :
    ∃ line, (lines text).getLast? = some line ∧ trim line ≠ [] := by
  obtain ⟨line, hlast⟩ : ∃ line, (lines text).getLast? = some line :=
    ⟨_, List.getLast?_eq_getLast_of_ne_nil (lines_ne_nil hne)⟩
  refine ⟨line, hlast, ?_⟩
  have hend : ∀ c, text.getLast? = some c → isLineBreak c = false := fun c hc =>
    not_break_of_trimmed h hc
  obtain ⟨-, hholds⟩ := suffix_of_getLast?_lines hlast hend
  intro hblank
  rw [trim_eq_nil_iff] at hblank
  rcases List.eq_nil_or_concat' text with rfl | ⟨others, c, rfl⟩
  · exact hne rfl
  · have hc := hend c List.getLast?_concat
    have hsuffix := hholds [c] (List.suffix_append others [c]) (by simpa [Unbroken] using hc)
    have hblank' := isBlank_of_mem (c := c) hblank (hsuffix.subset (by simp))
    rw [h.ending c List.getLast?_concat] at hblank'
    cases hblank'

/-- A text whose trimmed lines are those of its trimmed form, with as many empty lines above and
below as are given. -/
structure Framed (raw : List Char) (above below : Nat) : Prop where
  shows : trim raw ≠ []
  lines_eq : (lines raw).map trim =
    List.replicate above [] ++ (lines (trim raw)).map trim ++ List.replicate below []

theorem Framed.firstLineShows_eq {raw : List Char} {above below : Nat}
    (h : Framed raw above below) : firstLineShows raw = (above == 0) := by
  obtain ⟨line, hline, hshows⟩ := exists_head?_trimmed (trimmed_trim raw) h.shows
  rw [Comment.firstLineShows_eq, h.lines_eq]
  cases above with
  | zero =>
      rw [List.append_assoc, List.replicate_zero, List.nil_append, List.head?_append,
        List.head?_map, hline]
      simpa using hshows
  | succ above => rfl

theorem Framed.lastLineShows_eq {raw : List Char} {above below : Nat}
    (h : Framed raw above below) : lastLineShows raw = (below == 0) := by
  obtain ⟨line, hline, hshows⟩ := exists_getLast?_trimmed (trimmed_trim raw) h.shows
  rw [Comment.lastLineShows_eq, h.lines_eq]
  cases below with
  | zero =>
      rw [List.replicate_zero, List.append_nil, List.getLast?_append, List.getLast?_map, hline]
      simpa using hshows
  | succ below =>
      rw [List.replicate_succ', ← List.append_assoc, List.getLast?_concat]
      rfl

theorem exists_framed {raw : List Char} (h : trim raw ≠ []) :
    ∃ above below, Framed raw above below := by
  obtain ⟨above, below, hlines⟩ := exists_trim_lines raw
  exact ⟨above, below, h, hlines⟩

theorem isEmptyBlock_trim (raw : List Char) : isEmptyBlock (trim raw) = isEmptyBlock raw := by
  rw [isEmptyBlock, isEmptyBlock, trim_trim]

/-- What is read from a text depends on its trimmed form, on whether its first line shows something
and on whether its last line does. -/
theorem parse?_eq_readTrimmed (raw : String) :
    parse? (some raw) =
      readTrimmed (firstLineShows raw.toList) (lastLineShows raw.toList) (trim raw.toList) := by
  rw [parse?_some, contentLines_eq, readTrimmed, isEmptyBlock_trim]
  by_cases hempty : isEmptyBlock raw.toList = true
  · rw [if_pos hempty, if_pos hempty]
    rfl
  · rw [if_neg hempty, if_neg hempty, ← contentOf_map_trim]
    by_cases hshows : trim raw.toList = []
    · obtain ⟨above, below, hlines⟩ := exists_trim_lines raw.toList
      rw [hlines, hshows, contentOf_append_replicate, contentOf_replicate_append,
        ofContentLines_framed]
      rfl
    · obtain ⟨above, below, h⟩ := exists_framed hshows
      rw [h.lines_eq, contentOf_append_replicate, contentOf_replicate_append, ofContentLines_framed,
        contentOf_map_trim, h.firstLineShows_eq, h.lastLineShows_eq, Bool.true_and, Bool.true_and]

theorem afterOpening_of_not {line : List Char} (h : ¬OpensBlock line) (opens : Bool) :
    afterOpening opens line = line := by
  cases opens with
  | false => rfl
  | true => exact dropOpening_of_not_opensBlock h

theorem beforeClosing_of_not {line : List Char} (h : ¬ClosesBlock line) (closes : Bool) :
    beforeClosing closes line = line := by
  cases closes with
  | false => rfl
  | true => exact dropClosing_of_not_closesBlock h

theorem contentOf_opens_eq {text : List Char} (htrim : Trimmed text) (h : ¬OpensBlock text)
    (opens closes : Bool) :
    contentOf opens closes (lines text) = contentOf false closes (lines text) := by
  rcases hlines : lines text with _ | ⟨line, others⟩
  · rfl
  · have hline : ¬OpensBlock line := fun hopens => h ((opensBlock_first_iff htrim hlines).mp hopens)
    rw [contentOf, contentOf, mapFirst, mapFirst, afterOpening_of_not hline,
      afterOpening_of_not hline]

theorem contentOf_closes_eq {text : List Char} (htrim : Trimmed text) (h : ¬ClosesBlock text)
    (opens closes : Bool) :
    contentOf opens closes (lines text) = contentOf opens false (lines text) := by
  have hlast : ∀ line, (lines text).getLast? = some line → ¬ClosesBlock line :=
    fun line hline hcloses => h ((closesBlock_last_iff htrim hline).mp hcloses)
  rcases eq_nil_or_singleton_or_ends (lines text) with
    hlines | ⟨line, hlines⟩ | ⟨first, middle, last, hlines⟩
  · rw [hlines]
    rfl
  · have hline : ¬ClosesBlock (afterOpening opens line) := by
      intro hcloses
      apply hlast line (by rw [hlines]; rfl)
      cases opens with
      | false => exact hcloses
      | true =>
          obtain ⟨before, hbefore⟩ := dropOpening_suffix line
          rw [← hbefore]
          exact ClosesBlock.append_left hcloses before
    rw [hlines, contentOf_singleton, contentOf_singleton, beforeClosing_of_not hline,
      beforeClosing_of_not hline]
  · have hline : ¬ClosesBlock last := by
      apply hlast
      rw [hlines, ← List.cons_append, List.getLast?_concat]
    rw [hlines, contentOf_cons_concat, contentOf_cons_concat, beforeClosing_of_not hline,
      beforeClosing_of_not hline]

end SymbolReference.Comment

import SymbolReference.Proofs.Comment.Wording

namespace SymbolReference.Comment

open Text

theorem opensBlock_of_isEmptyBlock {text : List Char} (h : isEmptyBlock text = true) :
    OpensBlock text := by
  unfold isEmptyBlock at h
  split at h
  · rename_i rest htrim
    exact ⟨rest, htrim.symm⟩
  · cases h

theorem contentOf_unmarked (content : List (List Char)) :
    contentOf false false content = content.map fun line => trim (dropMarker line) := by
  rcases eq_nil_or_singleton_or_ends content with rfl | ⟨line, rfl⟩ | ⟨first, middle, last, rfl⟩
  · rfl
  · rfl
  · rw [contentOf_cons_concat, List.map_cons, List.map_append]
    rfl

theorem map_trim_dropMarker_lines (raw : List Char) :
    ofContentLines ((lines raw).map fun line => trim (dropMarker line)) =
      ofContentLines ((lines (trim raw)).map fun line => trim (dropMarker line)) := by
  obtain ⟨above, below, hlines⟩ := exists_trim_lines raw
  rw [← contentOf_unmarked, ← contentOf_unmarked, ← contentOf_map_trim, hlines,
    contentOf_append_replicate, contentOf_replicate_append, ofContentLines_framed,
    contentOf_map_trim]
  rfl

/-- Without an opening and a closing mark only the stars at the front of lines are removed. -/
theorem parse?_of_undelimited {raw : String} (hopens : ¬OpensBlock raw.toList)
    (hcloses : ¬ClosesBlock raw.toList) :
    parse? (some raw) =
      ofContentLines ((lines raw.toList).map fun line => trim (dropMarker line)) := by
  have htrim := trimmed_trim raw.toList
  have hblock : ¬isEmptyBlock (trim raw.toList) = true := by
    intro hblock
    rw [isEmptyBlock_trim] at hblock
    exact hopens (opensBlock_of_isEmptyBlock hblock)
  rw [parse?_eq_readTrimmed, readTrimmed, if_neg hblock,
    contentOf_opens_eq htrim (opensBlock_trim_iff.not.mpr hopens),
    contentOf_closes_eq htrim (closesBlock_trim_iff.not.mpr hcloses), contentOf_unmarked]
  exact (map_trim_dropMarker_lines raw.toList).symm

/-- A line without the star that it begins with. A star before a slash stays. -/
def withoutStar (line : List Char) : List Char :=
  if Starred line then (trim line).tail else line

theorem words_dropMarker (line : List Char) :
    words (dropMarker line) = words (withoutStar line) := by
  rw [withoutStar]
  split
  · rename_i h
    obtain ⟨after, hafter, hline⟩ := exists_dropMarker_eq h
    rw [hline, words_append_of_allBlank _ hafter]
  · rename_i h
    rw [dropMarker_of_not_starred h]

/-- Each line that begins with a star is one character short. -/
theorem length_flatMap_withoutStar (content : List (List Char)) :
    (content.flatMap words).flatten.length =
      (content.flatMap fun line => words (withoutStar line)).flatten.length +
        content.countP fun line => Starred line := by
  induction content with
  | nil => rfl
  | cons line others ih =>
      have hline : (words line).flatten.length =
          (words (withoutStar line)).flatten.length + if Starred line then 1 else 0 := by
        rw [← words_dropMarker, length_flatten_words, length_flatten_words, ink_dropMarker line]
      rw [List.flatMap_cons, List.flatMap_cons, List.flatten_append, List.flatten_append,
        List.length_append, List.length_append, List.countP_cons, ih, hline]
      simp only [decide_eq_true_eq]
      omega

/-- A text without an opening and a closing mark keeps its words line by line, each line that begins
with a star without this star; and it keeps all its words exactly if no line begins with one. -/
theorem words_parse_undelimited {raw : String} (hopens : ¬OpensBlock raw.toList)
    (hcloses : ¬ClosesBlock raw.toList) :
    (parse? (some raw)).shownWords =
        (lines raw.toList).flatMap (fun line => words (withoutStar line)) ∧
      ((parse? (some raw)).shownWords = words raw.toList ↔
        ∀ line ∈ lines raw.toList, ¬Starred line) := by
  have hshown : (parse? (some raw)).shownWords =
      (lines raw.toList).flatMap fun line => words (withoutStar line) := by
    rw [parse?_of_undelimited hopens hcloses, shownWords_ofContentLines, List.flatMap_map]
    exact List.flatMap_congr fun line _ => (words_trim _).trans (words_dropMarker line)
  refine ⟨hshown, ?_⟩
  rw [hshown, ← flatMap_words_lines]
  constructor
  · intro heq
    have hlength := length_flatMap_withoutStar (lines raw.toList)
    rw [heq] at hlength
    have hnone : (lines raw.toList).countP (fun line => Starred line) = 0 := by omega
    simpa [List.countP_eq_zero] using hnone
  · intro hplain
    apply List.flatMap_congr
    intro line hline
    rw [withoutStar, if_neg (hplain line hline)]

/-- A list of two points loses its stars; a text without stars at the front of lines keeps all its
words. -/
theorem words_parse_undelimited_points :
    (parse? (some "Points:\n * one\n **two**\n@see x */ y")).shownWords =
        ["Points:", "one", "*two**", "@see", "x", "*/", "y"].map String.toList ∧
      (parse? (some "Adds 2 * 3.\n*/ is kept\n@see x")).shownWords =
        words "Adds 2 * 3.\n*/ is kept\n@see x".toList := by
  constructor
  · rw [(words_parse_undelimited (by decide) (by decide)).1]
    decide
  · rw [(words_parse_undelimited (by decide) (by decide)).2]
    decide

/-- Not every word of a text without opening and closing mark is kept. -/
theorem parse_drops_leading_star :
    ¬OpensBlock "* one".toList ∧ ¬ClosesBlock "* one".toList ∧
      (parse? (some "* one")).shownWords = ["one".toList] ∧
      words "* one".toList = ["*".toList, "one".toList] := by
  decide

/-- White space on one line. -/
structure Margin where
  blanks : List Char
  blank : allBlank blanks = true
  unbroken : Unbroken blanks

/-- A line that shows no mark at its beginning and no closing mark at its end. -/
structure PlainLine where
  content : List Char
  unbroken : Unbroken content
  unstarred : ¬['*'] <+: trim content
  unopened : ¬['/', '*'] <+: trim content
  unclosed : ¬['*', '/'] <:+ trim content

/-- A block around lines: its opening and its closing mark have one star and as many more as are
given, and each line stands behind a margin, a star and a space. -/
structure Decoration where
  openingStars : Nat
  rows : List (Margin × PlainLine)
  margin : Margin
  closingStars : Nat

namespace Decoration

/-- The opening mark of a block. -/
def opening (d : Decoration) : List Char :=
  '/' :: List.replicate (d.openingStars + 1) '*'

/-- A line of a block. -/
def row (line : Margin × PlainLine) : List Char :=
  line.1.blanks ++ '*' :: ' ' :: line.2.content

/-- The last line of a block. -/
def closing (d : Decoration) : List Char :=
  d.margin.blanks ++ List.replicate (d.closingStars + 1) '*' ++ ['/']

/-- The text of a block. -/
def text (d : Decoration) : List Char :=
  d.opening ++ '\n' :: ((d.rows.flatMap fun line => row line ++ ['\n']) ++ d.closing)

/-- The lines of a block without the block. -/
def plainLines (d : Decoration) : List (List Char) :=
  d.rows.map fun line => line.2.content

theorem unbroken_replicate_star (n : Nat) : Unbroken (List.replicate n '*') := by
  intro c hc
  rw [List.eq_of_mem_replicate hc]
  decide

theorem unbroken_row (line : Margin × PlainLine) : Unbroken (row line) := by
  have hstar : Unbroken ['*', ' '] := by decide
  exact line.1.unbroken.append (hstar.append line.2.unbroken)

theorem lines_text (d : Decoration) :
    lines d.text = d.opening :: (d.rows.map row ++ [d.closing]) := by
  have hopening : Unbroken d.opening := by
    have hslash : Unbroken ['/'] := by decide
    exact hslash.append (unbroken_replicate_star (d.openingStars + 1))
  have hclosing : Unbroken d.closing := by
    have hslash : Unbroken ['/'] := by decide
    exact (d.margin.unbroken.append (unbroken_replicate_star _)).append hslash
  have hrows : ∀ line ∈ d.rows.map row, Unbroken line := by
    intro line hline
    obtain ⟨source, -, rfl⟩ := List.mem_map.mp hline
    exact unbroken_row source
  have hfeeds : (d.rows.flatMap fun line => row line ++ ['\n']) =
      (d.rows.map row).flatMap fun line => line ++ ['\n'] := by
    rw [List.flatMap_map]
  rw [text, lines_append_feed hopening, hfeeds, lines_flatMap_feed hrows,
    lines_of_unbroken hclosing (by simp [closing])]

theorem dropStars_replicate_append (n : Nat) (s : List Char) :
    dropStars (List.replicate n '*' ++ s) = dropStars s := by
  apply List.dropWhile_append_of_pos
  intro c hc
  simpa using List.eq_of_mem_replicate hc

theorem dropOpening_opening (d : Decoration) : dropOpening d.opening = [] := by
  have hstars := dropStars_replicate_append d.openingStars []
  rw [List.append_nil] at hstars
  exact hstars

theorem trim_dropMarker_row (line : Margin × PlainLine) :
    trim (dropMarker (row line)) = trim line.2.content := by
  have hleft : trimLeft (row line) = '*' :: ' ' :: line.2.content :=
    trimLeft_append_left line.1.blank _
  rw [dropMarker, hleft]
  exact trim_cons_blank (by decide) line.2.content

theorem trim_dropMarker_closing (d : Decoration) :
    trim (dropMarker (dropClosing d.closing)) = [] := by
  have hblank : allBlank d.margin.blanks.reverse = true := by
    simpa [allBlank] using d.margin.blank
  have hreverse : d.closing.reverse =
      '/' :: '*' :: (List.replicate d.closingStars '*' ++ d.margin.blanks.reverse) := by
    rw [closing, List.reverse_append, List.reverse_append, List.reverse_replicate,
      List.replicate_succ]
    rfl
  have hstars : dropStars (List.replicate d.closingStars '*' ++ d.margin.blanks.reverse) =
      d.margin.blanks.reverse := by
    rw [dropStars_replicate_append]
    exact dropStars_append_blank hblank []
  have hclosing : dropClosing d.closing = d.margin.blanks := by
    rw [dropClosing_eq_reverse, hreverse, dropOpening]
    change (dropStars (List.replicate d.closingStars '*' ++ d.margin.blanks.reverse)).reverse = _
    rw [hstars, List.reverse_reverse]
  rw [hclosing, ← trim_dropMarker_trim, trim_eq_nil_iff.mpr d.margin.blank]
  rfl

theorem isEmptyBlock_text (d : Decoration) : isEmptyBlock d.text = false := by
  -- A line break follows the stars of the opening mark, so they do not reach the closing one.
  obtain ⟨middle, hmiddle⟩ : ∃ middle, d.text =
      '/' :: '*' :: (List.replicate d.openingStars '*' ++ '\n' :: middle ++ ['/']) := by
    refine ⟨(d.rows.flatMap fun line => row line ++ ['\n']) ++
      (d.margin.blanks ++ List.replicate (d.closingStars + 1) '*'), ?_⟩
    simp [text, opening, closing, List.replicate_succ]
  have htrimmed : Trimmed d.text := by
    rw [hmiddle]
    constructor
    · rintro c ⟨⟩
      decide
    · intro c hc
      rw [← List.cons_append, ← List.cons_append, List.getLast?_concat] at hc
      cases hc
      decide
  rw [isEmptyBlock, htrimmed.trim_eq, hmiddle]
  simp [dropStars]

theorem contentLines_text (d : Decoration) :
    contentLines d.text = [] :: (d.plainLines.map trim ++ [[]]) := by
  have hopening : trim (dropMarker (afterOpening true d.opening)) = [] := by
    change trim (dropMarker (dropOpening d.opening)) = []
    rw [dropOpening_opening]
    rfl
  have hclosing : trim (dropMarker (beforeClosing true d.closing)) = [] :=
    trim_dropMarker_closing d
  rw [contentLines_eq, isEmptyBlock_text, if_neg (by simp), lines_text, contentOf_cons_concat,
    hopening, hclosing, plainLines, List.map_map, List.map_map]
  simp only [Function.comp_def, trim_dropMarker_row]

theorem parse_text (d : Decoration) :
    parse? (some (String.ofList d.text)) = ofContentLines (d.plainLines.map trim) := by
  rw [parse?_some, String.toList_ofList, contentLines_text]
  exact ofContentLines_framed 1 1 (d.plainLines.map trim)

/-- The lines of a block are read back from the text without the block, but for an empty line at
the end. -/
theorem lines_plainLines (d : Decoration) :
    lines (joined ['\n'] d.plainLines) = d.plainLines ∨
      lines (joined ['\n'] d.plainLines) ++ [[]] = d.plainLines := by
  apply lines_joined_feed
  intro line hline
  obtain ⟨source, -, rfl⟩ := List.mem_map.mp hline
  exact source.2.unbroken

theorem exists_of_mem_lines {d : Decoration} {line : List Char}
    (h : line ∈ lines (joined ['\n'] d.plainLines)) :
    ∃ source : PlainLine, source.content = line := by
  have hmem : line ∈ d.plainLines := by
    rcases d.lines_plainLines with hlines | hlines
    · rwa [hlines] at h
    · rw [← hlines]
      exact List.mem_append_left _ h
  obtain ⟨source, -, hsource⟩ := List.mem_map.mp hmem
  exact ⟨source.2, hsource⟩

theorem parse_plainLines (d : Decoration) :
    parse? (some (String.ofList (joined ['\n'] d.plainLines))) =
      ofContentLines (d.plainLines.map trim) := by
  -- No line holds a mark, so the text neither begins nor ends with one.
  have hopens : ¬OpensBlock (joined ['\n'] d.plainLines) := by
    intro h
    obtain ⟨line, hline, hopens⟩ := exists_line_of_opensBlock h
    obtain ⟨source, rfl⟩ := exists_of_mem_lines hline
    exact source.unopened hopens
  have hcloses : ¬ClosesBlock (joined ['\n'] d.plainLines) := by
    intro h
    obtain ⟨line, hline, hcloses⟩ := exists_line_of_closesBlock h
    obtain ⟨source, rfl⟩ := exists_of_mem_lines hline
    exact source.unclosed hcloses
  have hplain : ((lines (joined ['\n'] d.plainLines)).map fun line => trim (dropMarker line)) =
      (lines (joined ['\n'] d.plainLines)).map trim := by
    apply List.map_congr_left
    intro line hline
    obtain ⟨source, rfl⟩ := exists_of_mem_lines hline
    rw [dropMarker_of_not_starred fun h => source.unstarred h.1]
  rw [← String.toList_ofList (l := joined ['\n'] d.plainLines)] at hopens hcloses
  rw [parse?_of_undelimited hopens hcloses, String.toList_ofList, hplain]
  rcases d.lines_plainLines with hlines | hlines
  · rw [hlines]
  · have hbelow := ofContentLines_framed 0 1 ((lines (joined ['\n'] d.plainLines)).map trim)
    rw [← hbelow]
    nth_rewrite 2 [← hlines]
    rw [List.map_append]
    rfl

end Decoration

/-- A block around lines that show no marks is read as the lines themselves. -/
theorem parse_decorated_eq_parse_plain (d : Decoration) :
    parse? (some (String.ofList d.text)) =
      parse? (some (String.ofList (joined ['\n'] d.plainLines))) := by
  rw [d.parse_text, d.parse_plainLines]

example : (⟨1, [(⟨[' '], by decide, by decide⟩,
      ⟨"@see a */ b".toList, by decide, by decide, by decide, by decide⟩)],
    ⟨['\t'], by decide, by decide⟩, 2⟩ : Decoration).text =
      "/**\n * @see a */ b\n\t***/".toList := by decide

end SymbolReference.Comment

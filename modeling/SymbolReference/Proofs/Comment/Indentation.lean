import SymbolReference.Proofs.Comment.Decoration

namespace SymbolReference.Comment

open Text

theorem words_ne_nil_of_mem {s : List Char} {c : Char} (hc : c ∈ s) (hsolid : isBlank c = false) :
    words s ≠ [] := by
  intro hnil
  rw [isBlank_of_mem (allBlank_of_words_eq_nil hnil) hc] at hsolid
  cases hsolid

/-- White space inside a trimmed text has words on both sides. -/
theorem not_blank_of_words_eq_singleton {s word : List Char} (htrim : Trimmed s)
    (h : words s = [word]) : ∀ c ∈ s, isBlank c = false := by
  intro c hc
  by_contra hblank
  rw [Bool.not_eq_false] at hblank
  obtain ⟨before, after, rfl⟩ := List.append_of_mem hc
  have hbefore : words before ≠ [] := by
    rcases before with _ | ⟨d, before⟩
    · rw [htrim.start c rfl] at hblank
      cases hblank
    · exact words_ne_nil_of_mem List.mem_cons_self (htrim.start d rfl)
  have hafter : words after ≠ [] := by
    rcases List.eq_nil_or_concat' after with rfl | ⟨after, d, rfl⟩
    · rw [htrim.ending c List.getLast?_concat] at hblank
      cases hblank
    · refine words_ne_nil_of_mem (List.mem_append_right _ List.mem_cons_self) (htrim.ending d ?_)
      rw [← List.cons_append, ← List.append_assoc, List.getLast?_concat]
  have hcount := congrArg List.length h
  rw [words_append_blank hblank, List.length_append, List.length_singleton] at hcount
  have hfirst := List.length_pos_iff.mpr hbefore
  have hsecond := List.length_pos_iff.mpr hafter
  omega

/-- A text of one word is this word with white space around it. -/
theorem trim_eq_of_words_eq_singleton {s word : List Char} (h : words s = [word]) :
    trim s = word := by
  have hwords : words (trim s) = [word] := (words_trim s).trans h
  have hne : trim s ≠ [] := by
    intro hnil
    rw [hnil] at hwords
    cases hwords
  rw [words_eq_singleton hne (not_blank_of_words_eq_singleton (trimmed_trim s) hwords)] at hwords
  exact (List.cons.inj hwords).1

theorem words_of_isEmptyBlock {text : List Char} (h : isEmptyBlock text = true) :
    words text = [trim text] := by
  have hblock : ∃ stars, trim text = ['/', '*'] ++ (stars ++ ['/']) ∧ ∀ c ∈ stars, c = '*' := by
    unfold isEmptyBlock at h
    split at h
    · rename_i rest htrim
      refine ⟨rest.takeWhile (· = '*'), ?_, fun c hc => by simpa using List.mem_takeWhile_imp hc⟩
      have hstars : dropStars rest = ['/'] := by simpa using h
      rw [htrim, ← hstars, dropStars, List.takeWhile_append_dropWhile]
      rfl
    · cases h
  obtain ⟨stars, htrim, hstars⟩ := hblock
  rw [← words_trim, words_eq_singleton]
  · rw [htrim]
    simp
  · intro c hc
    rw [htrim, List.mem_append, List.mem_append] at hc
    have hmark : c = '/' ∨ c = '*' := by
      rcases hc with hc | hc | hc
      · simpa using hc
      · exact Or.inr (hstars c hc)
      · exact Or.inl (by simpa using hc)
    rcases hmark with rfl | rfl
    · decide
    · decide

theorem isEmptyBlock_of_words_eq {text other : List Char} (h : words text = words other)
    (hblock : isEmptyBlock text = true) : isEmptyBlock other = true := by
  have hword : words other = [trim text] := h.symm.trans (words_of_isEmptyBlock hblock)
  rw [← isEmptyBlock_trim, trim_eq_of_words_eq_singleton hword, isEmptyBlock_trim]
  exact hblock

theorem isEmptyBlock_congr {text other : List Char} (h : words text = words other) :
    isEmptyBlock text = isEmptyBlock other :=
  Bool.eq_iff_iff.mpr ⟨isEmptyBlock_of_words_eq h, isEmptyBlock_of_words_eq h.symm⟩

theorem words_eq_of_trimmed_lines {text other : List Char}
    (h : (lines text).map trim = (lines other).map trim) : words text = words other := by
  have hwords : ∀ s, words s = ((lines s).map trim).flatMap words := by
    intro s
    rw [List.flatMap_map, ← flatMap_words_lines s]
    exact List.flatMap_congr fun line _ => (words_trim line).symm
  rw [hwords text, hwords other, h]

theorem parse?_eq_of_trimmed_lines {raw other : String}
    (h : (lines raw.toList).map trim = (lines other.toList).map trim) :
    parse? (some raw) = parse? (some other) := by
  rw [parse?_some, parse?_some, contentLines_eq, contentLines_eq,
    isEmptyBlock_congr (words_eq_of_trimmed_lines h), ← contentOf_map_trim, h, contentOf_map_trim]

/-- A line with white space before and after it. -/
structure PaddedLine where
  left : Margin
  content : List Char
  right : Margin
  unbroken : Unbroken content

namespace PaddedLine

/-- The text of a line with its white space. -/
def text (line : PaddedLine) : List Char :=
  line.left.blanks ++ line.content ++ line.right.blanks

theorem unbroken_text (line : PaddedLine) : Unbroken line.text :=
  (line.left.unbroken.append line.unbroken).append line.right.unbroken

theorem trim_text (line : PaddedLine) : trim line.text = trim line.content := by
  rw [text, trim_append_right line.right.blank, trim_append_left line.left.blank]

end PaddedLine

/-- Lines with something on the last one are read back from the text that joins them. -/
theorem lines_joined_of_shown {content : List (List Char)} (h : ∀ line ∈ content, Unbroken line)
    (hlast : content.getLast? ≠ some []) : lines (joined ['\n'] content) = content := by
  rcases lines_joined_feed h with hlines | hlines
  · exact hlines
  · refine absurd ?_ hlast
    rw [← hlines, List.getLast?_concat]

/-- White space before and after the lines of a text changes nothing of the comment that is read from
it, when the last line shows something. -/
theorem parse_padded_lines_eq (rows : List PaddedLine)
    (hlast : ∀ row, rows.getLast? = some row → allBlank row.content = false) :
    parse? (some (String.ofList (joined ['\n'] (rows.map PaddedLine.text)))) =
      parse? (some (String.ofList (joined ['\n'] (rows.map PaddedLine.content)))) := by
  have hlines : ∀ shown : PaddedLine → List Char, (∀ row, Unbroken (shown row)) →
      (∀ row, trim (shown row) = trim row.content) →
      lines (joined ['\n'] (rows.map shown)) = rows.map shown := by
    intro shown hunbroken htrim
    apply lines_joined_of_shown
    · intro line hline
      obtain ⟨row, -, rfl⟩ := List.mem_map.mp hline
      exact hunbroken row
    · rw [List.getLast?_map]
      intro hnil
      obtain ⟨row, hrow, hempty⟩ := Option.map_eq_some_iff.mp hnil
      have hblank : allBlank row.content = true := by
        rw [← trim_eq_nil_iff, ← htrim, hempty]
        rfl
      rw [hlast row hrow] at hblank
      cases hblank
  apply parse?_eq_of_trimmed_lines
  rw [String.toList_ofList, String.toList_ofList,
    hlines _ PaddedLine.unbroken_text PaddedLine.trim_text,
    hlines _ (fun row => row.unbroken) (fun _ => rfl), List.map_map, List.map_map]
  exact List.map_congr_left fun row _ => row.trim_text

/-- The lines of a block in an indented and an unindented form. -/
def indentedBlock : List PaddedLine := [
  ⟨⟨"  ".toList, by decide, by decide⟩, "/** Adds.".toList, ⟨"\t".toList, by decide, by decide⟩,
    by decide⟩,
  ⟨⟨" ".toList, by decide, by decide⟩, [], ⟨[], by decide, by decide⟩, by decide⟩,
  ⟨⟨"\t ".toList, by decide, by decide⟩, "* @see x */".toList, ⟨" ".toList, by decide, by decide⟩,
    by decide⟩]

/-- A block is read alike with all its lines indented, the empty line and the lines of its marks
included. -/
theorem parse_padded_lines_eq_block :
    parse? (some "  /** Adds.\t\n \n\t * @see x */ ") = parse? (some "/** Adds.\n\n* @see x */") := by
  have hrows := parse_padded_lines_eq indentedBlock (by
    rintro row ⟨⟩
    decide)
  exact hrows

end SymbolReference.Comment

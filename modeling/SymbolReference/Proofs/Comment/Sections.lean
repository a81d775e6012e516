import SymbolReference.Comment.Parser
import SymbolReference.Proofs.Text.Words

namespace SymbolReference.Comment

open Text

/-- Consecutive lines of which the first, and only the first, opens a tag. -/
structure TagGroup where
  opening : List Char
  following : List (List Char)
  opens : opensTag opening = true
  continues : ∀ line ∈ following, opensTag line = false

def TagGroup.lines (group : TagGroup) : List (List Char) :=
  group.opening :: group.following

/-- Content lines cut into the lines before the first tag and the groups of the tags. -/
structure Sections (content : List (List Char)) where
  leading : List (List Char)
  groups : List TagGroup
  plain : ∀ line ∈ leading, opensTag line = false
  complete : leading ++ groups.flatMap TagGroup.lines = content

/-- Put a line in front of sections: a line that opens a tag takes the leading lines into its
group, any other line joins them. -/
def Sections.cons (line : List Char) {content : List (List Char)} (sections : Sections content) :
    Sections (line :: content) :=
  if h : opensTag line = true then
    { leading := []
      groups := ⟨line, sections.leading, h, sections.plain⟩ :: sections.groups
      plain := by simp
      complete := by simp [TagGroup.lines, ← sections.complete] }
  else
    { leading := line :: sections.leading
      groups := sections.groups
      plain := by simpa [h] using sections.plain
      complete := by simp [← sections.complete] }

def sectionsOf : (content : List (List Char)) → Sections content
  | [] => ⟨[], [], by simp, rfl⟩
  | line :: others => (sectionsOf others).cons line

theorem exists_of_opensTag {line : List Char} (h : opensTag line = true) :
    ∃ rest, line = '@' :: rest := by
  rcases line with _ | ⟨c, rest⟩
  · simp [opensTag] at h
  · refine ⟨rest, ?_⟩
    have hc : c = '@' := by simpa [opensTag] using h
    rw [hc]

theorem takeWhile_plain_append {plain : List (List Char)}
    (h : ∀ line ∈ plain, opensTag line = false) (groups : List TagGroup) :
    (plain ++ groups.flatMap TagGroup.lines).takeWhile (fun line => !opensTag line) = plain := by
  rw [List.takeWhile_append_of_pos (by simpa using h)]
  rcases groups with _ | ⟨group, groups⟩
  · simp
  · simp [TagGroup.lines, group.opens]

theorem tagsOf_plain_append {plain : List (List Char)}
    (h : ∀ line ∈ plain, opensTag line = false) (rest : List (List Char)) :
    tagsOf (plain ++ rest) = tagsOf rest := by
  induction plain with
  | nil => rfl
  | cons line others ih =>
      have hline : opensTag line = false := h line (by simp)
      rw [List.cons_append, tagsOf, hline]
      exact ih fun other hother => h other (List.mem_cons_of_mem line hother)

theorem tagsOf_groups (groups : List TagGroup) :
    tagsOf (groups.flatMap TagGroup.lines) =
      groups.map fun group => tagOf group.opening group.following := by
  induction groups with
  | nil => rfl
  | cons group groups ih =>
      rw [List.flatMap_cons, TagGroup.lines, List.cons_append, tagsOf, group.opens, if_pos rfl,
        takeWhile_plain_append group.continues, tagsOf_plain_append group.continues, ih,
        List.map_cons]

theorem ofContentLines_eq {content : List (List Char)} (sections : Sections content) :
    ofContentLines content =
      { description := flow sections.leading
        tags := sections.groups.map fun group => tagOf group.opening group.following } := by
  obtain ⟨leading, groups, plain, rfl⟩ := sections
  rw [ofContentLines, takeWhile_plain_append plain, tagsOf_plain_append plain, tagsOf_groups]

theorem words_flow (parts : List (List Char)) : words (flow parts).toList = parts.flatMap words := by
  rw [flow, String.toList_ofList, words_collapse, words_joined_space]
  induction parts with
  | nil => rfl
  | cons part parts ih =>
      rcases part with _ | ⟨c, part⟩
      · simpa using ih
      · simp [ih]

/-- Cutting a text before its first separator keeps its words. -/
theorem words_cut {separates : Char → Bool} (h : ∀ c, separates c = true → isBlank c = true)
    (start rest : List Char) :
    words (start ++ rest.takeWhile fun c => !separates c) ++
        words (rest.dropWhile fun c => !separates c) = words (start ++ rest) := by
  cases hdrop : rest.dropWhile fun c => !separates c with
  | nil =>
      have hall : rest.takeWhile (fun c => !separates c) = rest := by
        simpa [hdrop] using List.takeWhile_append_dropWhile (p := fun c => !separates c) (l := rest)
      rw [hall, words_nil, List.append_nil]
  | cons c after =>
      have hne : rest.dropWhile (fun c => !separates c) ≠ [] := by simp [hdrop]
      -- The separator is white space, so no word goes across the cut.
      have hc : isBlank c = true := by
        apply h
        simpa [hdrop] using List.head_dropWhile_not (fun c => !separates c) hne
      have hrest : rest = (rest.takeWhile fun c => !separates c) ++ c :: after := by
        rw [← hdrop, List.takeWhile_append_dropWhile]
      rw [words_cons_blank hc, ← words_append_blank hc, List.append_assoc, ← hrest]

/-- Splitting a tag line into name and body keeps its words. The name may be empty, and it may hold
white space other than spaces and tabs. -/
theorem words_splitTag (rest : List Char) :
    words ('@' :: (splitTag rest).1) ++ words (splitTag rest).2 = words ('@' :: rest) := by
  rcases rest with _ | ⟨c, rest⟩
  · rfl
  · rw [splitTag]
    by_cases hc : isBlank c = true
    · simp only [hc, if_true, words_trim, words_cons_blank]
      exact (words_append_blank hc ['@'] rest).symm
    · simp only [hc, Bool.false_eq_true, if_false, words_trim]
      have hblank : ∀ d : Char, (d = ' ' || d = '\t') = true → isBlank d = true := by
        intro d hd
        rcases (by simpa using hd : d = ' ' ∨ d = '\t') with rfl | rfl
        · decide
        · decide
      exact words_cut hblank ['@'] (c :: rest)

/-- A tag has the words of the lines of its group, the mark `@` before the name included. -/
theorem words_tagOf (group : TagGroup) :
    words ('@' :: (tagOf group.opening group.following).name.toList ++
        ' ' :: (tagOf group.opening group.following).body.toList) =
      group.lines.flatMap words := by
  obtain ⟨rest, hrest⟩ := exists_of_opensTag group.opens
  rw [words_append_blank (by decide), TagGroup.lines, List.flatMap_cons, hrest]
  simp only [tagOf, List.tail_cons, String.toList_ofList, words_flow, List.flatMap_cons]
  rw [← List.append_assoc, words_splitTag]

theorem parse?_some (raw : String) :
    parse? (some raw) = ofContentLines (contentLines raw.toList) := by
  by_cases h : raw.isEmpty = true
  · have hraw : raw = "" := by simpa using h
    subst hraw
    rfl
  · simp [parse?, parse, h]

/-- No word of a comment is lost, repeated, moved or given to another tag: however the content lines
are cut into sections, and they always can be, the description has the words of the leading lines,
and the tags are, one for one and in order, made of the words of the groups. -/
theorem words_parse_eq_words_sections (raw : String) :
    Nonempty (Sections (contentLines raw.toList)) ∧
      ∀ sections : Sections (contentLines raw.toList),
        words (parse? (some raw)).description.toList = sections.leading.flatMap words ∧
        ((parse? (some raw)).tags.map fun tag =>
            words ('@' :: tag.name.toList ++ ' ' :: tag.body.toList)) =
          sections.groups.map fun group => group.lines.flatMap words := by
  refine ⟨⟨sectionsOf _⟩, fun sections => ?_⟩
  rw [parse?_some, ofContentLines_eq sections]
  constructor
  · exact words_flow sections.leading
  · rw [List.map_map]
    exact List.map_congr_left fun group _ => words_tagOf group

end SymbolReference.Comment

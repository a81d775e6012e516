import SymbolReference.Proofs.Comment.Sections
import SymbolReference.Proofs.Text.Lines
import SymbolReference.Proofs.Text.Trim

namespace SymbolReference

open Text

/-- A tag as it is read: its body is collapsed, and its name is one stretch of a line without spaces
and tabs, which does not start with white space and, unless a body follows, does not end with it. -/
structure Tag.Canonical (tag : Tag) : Prop where
  body : tag.body.toList = collapse tag.body.toList
  unseparated : ∀ c ∈ tag.name.toList, c ≠ ' ' ∧ c ≠ '\t' ∧ isLineBreak c = false
  start : ∀ c, tag.name.toList.head? = some c → isBlank c = false
  ending : tag.body = "" → ∀ c, tag.name.toList.getLast? = some c → isBlank c = false

namespace Comment

/-- A comment as it is read: its description is collapsed and does not open a tag, and its tags are
canonical. -/
structure Canonical (c : Comment) : Prop where
  description : c.description.toList = collapse c.description.toList
  untagged : c.description.toList.head? ≠ some '@'
  tags : ∀ tag ∈ c.tags, tag.Canonical

/-- The text of a tag after the mark of its line. -/
def tagText (tag : Tag) : List Char :=
  '@' :: tag.name.toList ++ ' ' :: tag.body.toList

/-- A line of a block. -/
def markedLine (content : List Char) : List Char :=
  " * ".toList ++ content

/-- The block that shows a comment: its description on a line and then each tag on a line. -/
def block (c : Comment) : String :=
  String.ofList ("/**".toList ++ '\n' :: (markedLine c.description.toList ++ '\n' ::
    ((c.tags.flatMap fun tag => markedLine (tagText tag) ++ ['\n']) ++ " */".toList)))

theorem dropStars_subset (s : List Char) : dropStars s ⊆ s :=
  (List.dropWhile_suffix _).subset

theorem dropOpening_subset (line : List Char) : dropOpening line ⊆ line := by
  unfold dropOpening
  split
  · rename_i rest h
    have hrest : rest ⊆ trimLeft line := by
      rw [h]
      exact List.Subset.trans (List.subset_cons_self _ _) (List.subset_cons_self _ _)
    exact List.Subset.trans (dropStars_subset rest) (List.Subset.trans hrest (trimLeft_subset line))
  · exact List.Subset.refl line

theorem dropClosing_subset (line : List Char) : dropClosing line ⊆ line := by
  unfold dropClosing
  split
  · rename_i rest h
    have hrest : rest ⊆ (trimRight line).reverse := by
      rw [h]
      exact List.Subset.trans (List.subset_cons_self _ _) (List.subset_cons_self _ _)
    intro c hc
    have hmem := hrest (dropStars_subset rest (List.mem_reverse.mp hc))
    exact trimRight_subset line (List.mem_reverse.mp hmem)
  · exact List.Subset.refl line

theorem dropMarker_subset (line : List Char) : dropMarker line ⊆ line := by
  unfold dropMarker
  split
  · exact List.Subset.refl line
  · rename_i rest _ h
    have hrest : rest ⊆ trimLeft line := by
      rw [h]
      exact List.subset_cons_self _ _
    exact List.Subset.trans hrest (trimLeft_subset line)
  · exact List.Subset.refl line

theorem forall_mem_mapFirst {α : Type} {p : α → Prop} {f : α → α} (hf : ∀ x, p x → p (f x))
    {xs : List α} (h : ∀ x ∈ xs, p x) : ∀ x ∈ mapFirst f xs, p x := by
  rcases xs with _ | ⟨first, others⟩
  · exact h
  · rw [List.forall_mem_cons] at h
    rw [mapFirst, List.forall_mem_cons]
    exact ⟨hf first h.1, h.2⟩

theorem mapLast_concat {α : Type} (f : α → α) (xs : List α) (last : α) :
    mapLast f (xs ++ [last]) = xs ++ [f last] := by
  induction xs with
  | nil => rfl
  | cons x xs ih =>
      rcases xs with _ | ⟨y, xs⟩
      · rfl
      · rw [List.cons_append, List.cons_append, mapLast, ← List.cons_append, ih]
        rfl

theorem forall_mem_mapLast {α : Type} {p : α → Prop} {f : α → α} (hf : ∀ x, p x → p (f x))
    {xs : List α} (h : ∀ x ∈ xs, p x) : ∀ x ∈ mapLast f xs, p x := by
  rcases List.eq_nil_or_concat' xs with rfl | ⟨others, last, rfl⟩
  · exact h
  · rw [List.forall_mem_append, List.forall_mem_singleton] at h
    rw [mapLast_concat, List.forall_mem_append, List.forall_mem_singleton]
    exact ⟨h.1, hf last h.2⟩

/-- A content line is a single line without white space around it. -/
theorem of_mem_contentLines {line raw : List Char} (h : line ∈ contentLines raw) :
    Trimmed line ∧ Unbroken line := by
  unfold contentLines at h
  split at h
  · cases h
  · obtain ⟨marked, hmarked, rfl⟩ := List.mem_map.mp h
    refine ⟨trimmed_trim _, ?_⟩
    have hopened : ∀ other ∈ mapFirst dropOpening (lines raw), Unbroken other :=
      forall_mem_mapFirst (fun other hother => hother.of_subset (dropOpening_subset other))
        fun other hother => unbroken_of_mem_lines hother
    have hunbroken : Unbroken marked :=
      forall_mem_mapLast (fun other hother => hother.of_subset (dropClosing_subset other))
        hopened marked hmarked
    exact hunbroken.of_subset (List.Subset.trans (trim_subset _) (dropMarker_subset marked))

theorem toList_flow (parts : List (List Char)) :
    (flow parts).toList = collapse (flow parts).toList := by
  rw [flow, String.toList_ofList, collapse_collapse]

/-- What flows from lines that do not open tags does not look like a tag. -/
theorem head?_flow_ne {parts : List (List Char)} (htrimmed : ∀ part ∈ parts, Trimmed part)
    (hplain : ∀ part ∈ parts, opensTag part = false) :
    (flow parts).toList.head? ≠ some '@' := by
  rw [flow, String.toList_ofList]
  rcases hshown : parts.filter fun part => !part.isEmpty with _ | ⟨part, others⟩
  · rw [hshown]
    decide
  · have hmem : part ∈ parts.filter fun part => !part.isEmpty := by simp [hshown]
    obtain ⟨hpart, hne⟩ := List.mem_filter.mp hmem
    rcases part with _ | ⟨c, rest⟩
    · simp at hne
    · have hblank : isBlank c = false := (htrimmed _ hpart).start c rfl
      have hc : c ≠ '@' := by simpa [opensTag] using hplain _ hpart
      obtain ⟨after, hafter⟩ : ∃ after, joined [' '] ((c :: rest) :: others) = c :: after := by
        rcases others with _ | ⟨next, others⟩
        · exact ⟨rest, rfl⟩
        · exact ⟨_, rfl⟩
      rw [hshown, hafter, head?_collapse hblank]
      simpa using hc

theorem allBlank_of_words_eq_nil {s : List Char} (h : words s = []) : allBlank s = true := by
  induction s with
  | nil => rfl
  | cons c rest ih =>
      by_cases hc : isBlank c = true
      · rw [words_cons_blank hc] at h
        have hrest := ih h
        simpa [allBlank, hc] using hrest
      · obtain ⟨word, others, hwords⟩ := exists_word_of_not_blank (by simpa using hc) rest
        rw [hwords] at h
        cases h

theorem dropWhile_eq_nil_of_trimmed {line : List Char} {p : Char → Bool} (h : Trimmed line)
    (hblank : allBlank (line.dropWhile p) = true) : line.dropWhile p = [] := by
  rcases hlast : (line.dropWhile p).getLast? with _ | c
  · exact List.getLast?_eq_none_iff.mp hlast
  · -- Otherwise its last character, which is white space, would end the trimmed line.
    have hc : isBlank c = true :=
      List.all_eq_true.mp hblank c (List.mem_of_getLast? hlast)
    have hline : line.getLast? = some c := by
      rw [← List.takeWhile_append_dropWhile (p := p) (l := line), List.getLast?_append, hlast]
      rfl
    rw [h.ending c hline] at hc
    cases hc

/-- Whether a character may stand in the name of a tag. -/
def namesTag (c : Char) : Bool :=
  !(c = ' ' || c = '\t')

/-- How a tag line is split: a name that would start with white space is empty, and any other name
ends at the first space or tab. -/
theorem splitTag_cases (rest : List Char) :
    (splitTag rest).1 = [] ∨
      (∀ c, rest.head? = some c → isBlank c = false) ∧
        (splitTag rest).1 = rest.takeWhile namesTag ∧
        (splitTag rest).2 = trim (rest.dropWhile namesTag) := by
  rcases rest with _ | ⟨c, rest⟩
  · exact Or.inl rfl
  · by_cases hc : isBlank c = true
    · exact Or.inl (by simp [splitTag, hc])
    · rw [splitTag, if_neg hc]
      refine Or.inr ⟨?_, rfl, rfl⟩
      rintro d ⟨⟩
      simpa using hc

theorem unseparated_splitTag {rest : List Char} (hunbroken : Unbroken rest) :
    ∀ c ∈ (splitTag rest).1, c ≠ ' ' ∧ c ≠ '\t' ∧ isLineBreak c = false := by
  intro c hc
  rcases splitTag_cases rest with hempty | ⟨-, hname, -⟩
  · rw [hempty] at hc
    cases hc
  · rw [hname] at hc
    have hnames : namesTag c = true := List.mem_takeWhile_imp hc
    refine ⟨?_, ?_, hunbroken c ((List.takeWhile_prefix _).subset hc)⟩
    · rintro rfl
      exact absurd hnames (by decide)
    · rintro rfl
      exact absurd hnames (by decide)

theorem head?_splitTag {rest : List Char} :
    ∀ c, (splitTag rest).1.head? = some c → isBlank c = false := by
  intro c hc
  rcases splitTag_cases rest with hempty | ⟨hstart, hname, -⟩
  · rw [hempty] at hc
    cases hc
  · obtain ⟨after, hafter⟩ := List.takeWhile_prefix namesTag (l := rest)
    apply hstart
    rw [← hafter, List.head?_append, ← hname, hc]
    rfl

/-- Without a body nothing stands after the name, so the name ends where the line ends. -/
theorem getLast?_splitTag {rest : List Char} (htrimmed : Trimmed ('@' :: rest))
    (hbody : words (splitTag rest).2 = []) :
    ∀ c, (splitTag rest).1.getLast? = some c → isBlank c = false := by
  intro c hc
  rcases splitTag_cases rest with hempty | ⟨-, hname, hafter⟩
  · rw [hempty] at hc
    cases hc
  · rw [hafter, words_trim] at hbody
    have hdrop : ('@' :: rest).dropWhile namesTag = [] :=
      dropWhile_eq_nil_of_trimmed htrimmed (allBlank_of_words_eq_nil hbody)
    rw [List.dropWhile_cons_of_pos (by decide)] at hdrop
    have htake : rest.takeWhile namesTag = rest := by
      simpa [hdrop] using List.takeWhile_append_dropWhile (p := namesTag) (l := rest)
    rw [hname, htake] at hc
    apply htrimmed.ending
    rw [List.getLast?_cons, hc]
    rfl

theorem canonical_tagOf {line : List Char} (hopens : opensTag line = true) (htrimmed : Trimmed line)
    (hunbroken : Unbroken line) (following : List (List Char)) :
    (tagOf line following).Canonical := by
  obtain ⟨rest, rfl⟩ := exists_of_opensTag hopens
  have hname : (tagOf ('@' :: rest) following).name.toList = (splitTag rest).1 := by simp [tagOf]
  have hbody : (tagOf ('@' :: rest) following).body = flow ((splitTag rest).2 :: following) := rfl
  refine ⟨hbody ▸ toList_flow _, ?_, ?_, ?_⟩
  · rw [hname]
    exact unseparated_splitTag (hunbroken.of_subset (List.subset_cons_self '@' rest))
  · rw [hname]
    exact head?_splitTag
  · intro hnone
    have hflow := words_flow ((splitTag rest).2 :: following)
    rw [← hbody, hnone, List.flatMap_cons] at hflow
    rw [hname]
    exact getLast?_splitTag htrimmed (List.append_eq_nil_iff.mp hflow.symm).1

theorem canonical_empty : Canonical empty :=
  ⟨rfl, by decide, by simp [empty]⟩

theorem canonical_parse? (raw : Option String) : (parse? raw).Canonical := by
  rcases raw with _ | raw
  · exact canonical_empty
  · rw [parse?_some]
    have hlines : ∀ line ∈ contentLines raw.toList, Trimmed line ∧ Unbroken line :=
      fun line hline => of_mem_contentLines hline
    have sections := sectionsOf (contentLines raw.toList)
    rw [ofContentLines_eq sections]
    rw [← sections.complete] at hlines
    refine ⟨toList_flow _, ?_, ?_⟩
    · refine head?_flow_ne (fun line hline => ?_) sections.plain
      exact (hlines line (List.mem_append_left _ hline)).1
    · intro tag htag
      obtain ⟨group, hgroup, rfl⟩ := List.mem_map.mp htag
      have hopening : group.opening ∈ sections.groups.flatMap TagGroup.lines :=
        List.mem_flatMap.mpr ⟨group, hgroup, by simp [TagGroup.lines]⟩
      obtain ⟨htrimmed, hunbroken⟩ := hlines _ (List.mem_append_right _ hopening)
      exact canonical_tagOf group.opens htrimmed hunbroken group.following

def tagContent (tag : Tag) : List Char :=
  trim (tagText tag)

theorem unbroken_tagText {tag : Tag} (h : tag.Canonical) : Unbroken (tagText tag) := by
  have hname : Unbroken tag.name.toList := fun c hc => (h.unseparated c hc).2.2
  have hbody : Unbroken tag.body.toList := fun c hc => by
    rw [h.body] at hc
    exact not_break_of_mem_collapse hc
  have hmark : Unbroken ['@'] := by decide
  have hspace : Unbroken [' '] := by decide
  exact (hmark.append hname).append (hspace.append hbody)

theorem unbroken_markedLine {content : List Char} (h : Unbroken content) :
    Unbroken (markedLine content) :=
  Unbroken.append (by decide) h

theorem lines_tagLines {tags : List Tag} (h : ∀ tag ∈ tags, tag.Canonical) :
    lines ((tags.flatMap fun tag => markedLine (tagText tag) ++ ['\n']) ++ " */".toList) =
      (tags.map fun tag => markedLine (tagText tag)) ++ [" */".toList] := by
  induction tags with
  | nil => decide
  | cons tag tags ih =>
      rw [List.forall_mem_cons] at h
      have hline : Unbroken (markedLine (tagText tag)) := unbroken_markedLine (unbroken_tagText h.1)
      rw [List.flatMap_cons, List.append_assoc, List.append_assoc, List.singleton_append,
        lines_append_feed hline, ih h.2]
      rfl

theorem lines_block {c : Comment} (h : c.Canonical) :
    lines c.block.toList =
      "/**".toList :: markedLine c.description.toList ::
        (c.tags.map fun tag => markedLine (tagText tag)) ++ [" */".toList] := by
  have hopening : Unbroken "/**".toList := by decide
  have hdescription : Unbroken c.description.toList := fun d hd => by
    rw [h.description] at hd
    exact not_break_of_mem_collapse hd
  rw [block, String.toList_ofList, lines_append_feed hopening,
    lines_append_feed (unbroken_markedLine hdescription), lines_tagLines h.tags,
    List.cons_append, List.cons_append]

/-- The mark of a line is removed with the white space around it. -/
theorem trim_dropMarker_markedLine (content : List Char) :
    trim (dropMarker (markedLine content)) = trim content :=
  trim_cons_blank (c := ' ') (by decide) content

theorem isEmptyBlock_block (c : Comment) : isEmptyBlock c.block.toList = false := by
  have hopening : "/**".toList = ['/', '*', '*'] := by decide
  have hclosing : " */".toList = [' ', '*', '/'] := by decide
  -- A line feed follows the stars of the opening mark, so they do not reach the closing one.
  obtain ⟨middle, hmiddle⟩ :
      ∃ middle, c.block.toList = '/' :: '*' :: '*' :: '\n' :: middle ++ ['/'] := by
    refine ⟨markedLine c.description.toList ++ '\n' ::
      ((c.tags.flatMap fun tag => markedLine (tagText tag) ++ ['\n']) ++ [' ', '*']), ?_⟩
    simp [block, hopening, hclosing]
  have htrimmed : Trimmed c.block.toList := by
    rw [hmiddle]
    constructor
    · rintro d ⟨⟩
      decide
    · intro d hd
      rw [List.getLast?_concat] at hd
      cases hd
      decide
  rw [isEmptyBlock, htrimmed.trim_eq, hmiddle]
  simp [dropStars]

theorem contentLines_block {c : Comment} (h : c.Canonical) :
    contentLines c.block.toList =
      [] :: c.description.toList :: c.tags.map tagContent ++ [[]] := by
  have hdescription : trim c.description.toList = c.description.toList := by
    rw [h.description]
    exact (trimmed_collapse _).trim_eq
  have hfirst : trim (dropMarker (dropOpening "/**".toList)) = [] := by decide
  have hlast : trim (dropMarker (dropClosing " */".toList)) = [] := by decide
  rw [contentLines, isEmptyBlock_block, lines_block h, if_neg (by simp), List.cons_append, mapFirst,
    ← List.cons_append, mapLast_concat]
  simp only [List.map_append, List.map_cons, List.map_nil, List.map_map, hfirst, hlast,
    trim_dropMarker_markedLine, hdescription]
  rfl

theorem splitTag_name {name : List Char} (hnames : ∀ c ∈ name, namesTag c = true)
    (hstart : ∀ c, name.head? = some c → isBlank c = false) : splitTag name = (name, []) := by
  rcases name with _ | ⟨c, name⟩
  · rfl
  · have hc : ¬isBlank c = true := by simp [hstart c rfl]
    have htake : (c :: name).takeWhile namesTag = c :: name := List.takeWhile_eq_self_iff.mpr hnames
    have hdrop : (c :: name).dropWhile namesTag = [] := List.dropWhile_eq_nil_iff.mpr hnames
    rw [splitTag, if_neg hc]
    exact Prod.ext htake (congrArg trim hdrop)

theorem splitTag_name_body {name body : List Char} (hnames : ∀ c ∈ name, namesTag c = true)
    (hstart : ∀ c, name.head? = some c → isBlank c = false) (hbody : Trimmed body) :
    splitTag (name ++ ' ' :: body) = (name, body) := by
  have htrim : trim (' ' :: body) = body := by
    rw [trim_cons_blank (by decide), hbody.trim_eq]
  rcases name with _ | ⟨c, name⟩
  · rw [List.nil_append, splitTag, if_pos (by decide), htrim]
  · have hc : ¬isBlank c = true := by simp [hstart c rfl]
    have htake : (c :: name ++ ' ' :: body).takeWhile namesTag = c :: name := by
      rw [List.takeWhile_append_of_pos hnames, List.takeWhile_cons_of_neg (by decide),
        List.append_nil]
    have hdrop : (c :: name ++ ' ' :: body).dropWhile namesTag = ' ' :: body := by
      rw [List.dropWhile_append_of_pos hnames, List.dropWhile_cons_of_neg (by decide)]
    rw [List.cons_append, splitTag, if_neg hc, ← List.cons_append]
    exact Prod.ext htake ((congrArg trim hdrop).trans htrim)

theorem splitTag_tagContent {tag : Tag} (h : tag.Canonical) :
    ∃ rest, tagContent tag = '@' :: rest ∧
      splitTag rest = (tag.name.toList, tag.body.toList) := by
  have hnames : ∀ c ∈ tag.name.toList, namesTag c = true := by
    intro c hc
    obtain ⟨hspace, htab, -⟩ := h.unseparated c hc
    simp [namesTag, hspace, htab]
  have hbody : Trimmed tag.body.toList := h.body ▸ trimmed_collapse _
  by_cases hnone : tag.body.toList = []
  · -- Without a body the space after the name is trimmed away.
    have hname : Trimmed ('@' :: tag.name.toList) := by
      refine ⟨by rintro c ⟨⟩; decide, fun c hc => ?_⟩
      rw [List.getLast?_cons] at hc
      rcases hlast : tag.name.toList.getLast? with _ | d
      · rw [hlast] at hc
        cases hc
        decide
      · rw [hlast] at hc
        cases hc
        exact h.ending (String.toList_eq_nil_iff.mp hnone) _ hlast
    refine ⟨tag.name.toList, ?_, ?_⟩
    · rw [tagContent, tagText, hnone]
      exact trim_concat_blank (by decide) hname (by simp)
    · rw [hnone]
      exact splitTag_name hnames h.start
  · have htext : Trimmed (tagText tag) := by
      refine ⟨by rintro c ⟨⟩; decide, fun c hc => hbody.ending c ?_⟩
      rw [tagText, List.getLast?_append_of_ne_nil _ (by simp), List.getLast?_cons] at hc
      rcases hlast : tag.body.toList.getLast? with _ | d
      · exact absurd (List.getLast?_eq_none_iff.mp hlast) hnone
      · rw [hlast] at hc
        cases hc
        rfl
    refine ⟨tag.name.toList ++ ' ' :: tag.body.toList, ?_, ?_⟩
    · rw [tagContent, htext.trim_eq]
      rfl
    · exact splitTag_name_body hnames h.start hbody

theorem flow_cons_of_empty {following : List (List Char)} (h : ∀ line ∈ following, line = [])
    (part : List Char) : flow (part :: following) = String.ofList (collapse part) := by
  have hfollowing : following.filter (fun line => !line.isEmpty) = [] := by
    rw [List.filter_eq_nil_iff]
    intro line hline
    simp [h line hline]
  rcases part with _ | ⟨c, part⟩
  · rw [flow, List.filter_cons_of_neg (by simp), hfollowing]
    rfl
  · rw [flow, List.filter_cons_of_pos (by simp), hfollowing, joined_singleton]

theorem tagOf_tagContent {tag : Tag} (h : tag.Canonical) {following : List (List Char)}
    (hfollowing : ∀ line ∈ following, line = []) : tagOf (tagContent tag) following = tag := by
  obtain ⟨rest, hcontent, hsplit⟩ := splitTag_tagContent h
  rw [hcontent, tagOf, List.tail_cons, hsplit]
  simp only [flow_cons_of_empty hfollowing, ← h.body, String.ofList_toList]

theorem opensTag_tagContent {tag : Tag} (h : tag.Canonical) : opensTag (tagContent tag) = true := by
  obtain ⟨rest, hcontent, -⟩ := splitTag_tagContent h
  rw [hcontent]
  rfl

/-- Among the content lines of tags and an empty line, only the empty line opens no tag. -/
theorem eq_nil_of_mem_takeWhile {tags : List Tag} (h : ∀ tag ∈ tags, tag.Canonical)
    {line : List Char}
    (hline : line ∈ (tags.map tagContent ++ [[]]).takeWhile fun line => !opensTag line) :
    line = [] := by
  rcases List.mem_append.mp ((List.takeWhile_prefix _).subset hline) with hmem | hmem
  · obtain ⟨tag, htag, rfl⟩ := List.mem_map.mp hmem
    have hopens := List.mem_takeWhile_imp (p := fun line => !opensTag line) hline
    simp [opensTag_tagContent (h tag htag)] at hopens
  · exact List.mem_singleton.mp hmem

theorem tagsOf_tagContents {tags : List Tag} (h : ∀ tag ∈ tags, tag.Canonical) :
    tagsOf (tags.map tagContent ++ [[]]) = tags := by
  induction tags with
  | nil => rfl
  | cons tag tags ih =>
      rw [List.forall_mem_cons] at h
      rw [List.map_cons, List.cons_append, tagsOf, opensTag_tagContent h.1, if_pos rfl, ih h.2,
        tagOf_tagContent h.1 fun line hline => eq_nil_of_mem_takeWhile h.2 hline]

theorem parse?_block {c : Comment} (h : c.Canonical) : parse? (some c.block) = c := by
  have hplain : opensTag c.description.toList = false := by
    simpa [opensTag] using h.untagged
  have hdescription : flow ([] :: c.description.toList ::
      (c.tags.map tagContent ++ [[]]).takeWhile fun line => !opensTag line) = c.description := by
    have hflow := flow_cons_of_empty (fun line hline => eq_nil_of_mem_takeWhile h.tags hline)
      c.description.toList
    rw [← h.description, String.ofList_toList] at hflow
    exact hflow
  rw [parse?_some, contentLines_block h, ofContentLines, List.cons_append, List.cons_append,
    List.takeWhile_cons_of_pos rfl, List.takeWhile_cons_of_pos (by rw [hplain]; rfl), hdescription,
    tagsOf, if_neg (by decide), tagsOf, hplain, if_neg (by decide), tagsOf_tagContents h.tags]

/-- Reading gives exactly the canonical comments, and the block of a canonical comment is a text
from which it is read. So writing what was read as a block loses nothing. -/
theorem parse_range_eq_canonical :
    (∀ c : Comment, c.Canonical ↔ ∃ raw : String, parse? (some raw) = c) ∧
      (∀ c : Comment, c.Canonical ↔ parse? (some c.block) = c) ∧
      ∀ raw : Option String, parse? (some (parse? raw).block) = parse? raw := by
  refine ⟨fun c => ⟨fun h => ⟨c.block, parse?_block h⟩, ?_⟩, fun c => ⟨parse?_block, ?_⟩, ?_⟩
  · rintro ⟨raw, rfl⟩
    exact canonical_parse? (some raw)
  · intro h
    exact h ▸ canonical_parse? (some c.block)
  · intro raw
    exact parse?_block (canonical_parse? raw)

example : (⟨"*/", [⟨"@x\u00a0", "y"⟩, ⟨"", "* z"⟩]⟩ : Comment).block =
    "/**\n * */\n * @@x\u00a0 y\n * @ * z\n */" := by decide

end Comment

end SymbolReference

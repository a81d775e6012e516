import SymbolReference.Proofs.Text.Lines
import SymbolReference.Proofs.Text.Trim

/-!
The lines of a text, each of them trimmed, are the lines of the trimmed text with empty lines above
and below them, so white space around a text only changes how many empty lines there are.
-/

namespace SymbolReference.Text

theorem isBlank_of_mem {c : Char} {blanks : List Char} (h : allBlank blanks = true)
    (hc : c ∈ blanks) : isBlank c = true :=
  List.all_eq_true.mp h c hc

theorem trimLeft_append_left {blanks : List Char} (h : allBlank blanks = true) (s : List Char) :
    trimLeft (blanks ++ s) = trimLeft s :=
  List.dropWhile_append_of_pos fun _ hc => isBlank_of_mem h hc

theorem trimRight_reverse (s : List Char) : trimRight s.reverse = (trimLeft s).reverse := by
  rw [trimRight_eq_rdropWhile, List.rdropWhile, List.reverse_reverse, trimLeft]

theorem trimRight_append_right {blanks : List Char} (h : allBlank blanks = true) (s : List Char) :
    trimRight (s ++ blanks) = trimRight s := by
  have hreverse : allBlank blanks.reverse = true := by simpa [allBlank] using h
  have hleft := congrArg List.reverse (trimLeft_append_left hreverse s.reverse)
  rw [← trimRight_reverse, ← trimRight_reverse] at hleft
  simpa using hleft

theorem allBlank_iff_trimLeft_eq_nil {s : List Char} : allBlank s = true ↔ trimLeft s = [] := by
  rw [allBlank, trimLeft, List.dropWhile_eq_nil_iff, List.all_eq_true]

theorem trim_append_left {blanks : List Char} (h : allBlank blanks = true) (s : List Char) :
    trim (blanks ++ s) = trim s := by
  rw [trim, trim, trimLeft_append_left h]

theorem trim_append_right {blanks : List Char} (h : allBlank blanks = true) (s : List Char) :
    trim (s ++ blanks) = trim s := by
  rw [trim, trim, trimLeft, List.dropWhile_append, ← trimLeft, ← trimLeft]
  split
  · rename_i hs
    rw [List.isEmpty_iff.mp hs, allBlank_iff_trimLeft_eq_nil.mp h]
  · exact trimRight_append_right h _

theorem exists_blanks_of_trim (s : List Char) :
    ∃ before after, allBlank before = true ∧ allBlank after = true ∧
      s = before ++ trim s ++ after := by
  obtain ⟨after, hafter, hright⟩ := exists_blanks_of_trimRight (trimLeft s)
  refine ⟨s.takeWhile isBlank, after, ?_, hafter, ?_⟩
  · rw [allBlank, List.all_eq_true]
    intro c hc
    exact List.mem_takeWhile_imp hc
  · rw [List.append_assoc, trim, ← hright, trimLeft, List.takeWhile_append_dropWhile]

theorem trim_trim (s : List Char) : trim (trim s) = trim s :=
  (trimmed_trim s).trim_eq

theorem trim_trimRight (s : List Char) : trim (trimRight s) = trim s := by
  obtain ⟨blanks, hblanks, hs⟩ := exists_blanks_of_trimRight s
  calc
    trim (trimRight s) = trim (trimRight s ++ blanks) := (trim_append_right hblanks _).symm
    _ = trim s := by rw [← hs]

theorem trim_reverse (s : List Char) : trim s.reverse = (trim s).reverse := by
  obtain ⟨before, after, hbefore, hafter, hs⟩ := exists_blanks_of_trim s
  have hbefore' : allBlank before.reverse = true := by simpa [allBlank] using hbefore
  have hafter' : allBlank after.reverse = true := by simpa [allBlank] using hafter
  have htrimmed : Trimmed (trim s).reverse := by
    constructor
    · intro c hc
      apply (trimmed_trim s).ending c
      simpa using hc
    · intro c hc
      apply (trimmed_trim s).start c
      simpa using hc
  calc
    trim s.reverse = trim (after.reverse ++ ((trim s).reverse ++ before.reverse)) := by
      nth_rewrite 1 [hs]
      simp
    _ = trim (trim s).reverse := by rw [trim_append_left hafter', trim_append_right hbefore']
    _ = (trim s).reverse := htrimmed.trim_eq

theorem trim_eq_nil_iff {s : List Char} : trim s = [] ↔ allBlank s = true := by
  constructor
  · intro h
    obtain ⟨before, after, hbefore, hafter, hs⟩ := exists_blanks_of_trim s
    rw [hs, h, List.append_nil, allBlank, List.all_append, Bool.and_eq_true]
    exact ⟨hbefore, hafter⟩
  · intro h
    rw [trim, allBlank_iff_trimLeft_eq_nil.mp h]
    rfl

theorem trimRight_eq_nil_iff {s : List Char} : trimRight s = [] ↔ allBlank s = true := by
  rw [← trim_eq_nil_iff]
  constructor
  · intro h
    rw [← trim_trimRight, h]
    rfl
  · intro h
    have hreverse : trimLeft s.reverse = [] := by
      rw [← allBlank_iff_trimLeft_eq_nil, ← trim_eq_nil_iff, trim_reverse, h]
      rfl
    rw [← List.reverse_reverse s, trimRight_reverse, hreverse]
    rfl

theorem trimRight_cons_congr (c : Char) {s t : List Char} (h : trimRight s = trimRight t) :
    trimRight (c :: s) = trimRight (c :: t) := by
  rw [trimRight, trimRight, h]

theorem lines_ne_nil {s : List Char} (h : s ≠ []) : lines s ≠ [] := by
  fun_cases lines s with
  | case1 => exact absurd rfl h
  | case2 => simp
  | case3 => simp
  | case4 => simp
  | case5 => simp

/-- A break ends an empty line, unless it is a carriage return before a line feed. -/
theorem lines_cons_break {c : Char} (hc : isLineBreak c = true) (s : List Char) :
    lines (c :: s) = [] :: lines s ∨
      c = '\r' ∧ ∃ rest, s = '\n' :: rest ∧ lines (c :: s) = [] :: lines rest := by
  by_cases hpair : c = '\r' ∧ ∃ rest, s = '\n' :: rest
  · obtain ⟨rfl, rest, rfl⟩ := hpair
    exact Or.inr ⟨rfl, rest, rfl, by rw [lines]⟩
  · refine Or.inl ?_
    rw [lines, if_pos hc]
    rintro rest rfl rfl
    exact hpair ⟨rfl, rest, rfl⟩

theorem exists_trim_lines_cons {c : Char} (hc : isBlank c = true) (s : List Char) :
    ∃ above, (lines (c :: s)).map trim = List.replicate above [] ++ (lines s).map trim := by
  by_cases hbreak : isLineBreak c = true
  · rcases lines_cons_break hbreak s with hlines | ⟨-, rest, rfl, hlines⟩
    · exact ⟨1, by rw [hlines]; rfl⟩
    · have hempty : Unbroken [] := by
        intro c hc
        cases hc
      have hfeed := lines_append_feed hempty rest
      rw [List.nil_append] at hfeed
      exact ⟨0, by rw [hlines, hfeed]; rfl⟩
  · rw [lines_cons_of_not_break (by simpa using hbreak)]
    rcases lines s with _ | ⟨line, others⟩
    · refine ⟨1, ?_⟩
      rw [List.map_singleton, trim_cons_blank hc]
      rfl
    · refine ⟨0, ?_⟩
      rw [List.map_cons, trim_cons_blank hc]
      rfl

theorem exists_trim_lines_append_left {blanks : List Char} (h : allBlank blanks = true)
    (s : List Char) :
    ∃ above, (lines (blanks ++ s)).map trim = List.replicate above [] ++ (lines s).map trim := by
  induction blanks with
  | nil => exact ⟨0, rfl⟩
  | cons c blanks ih =>
      simp only [allBlank, List.all_cons, Bool.and_eq_true] at h
      obtain ⟨above, habove⟩ := ih h.2
      obtain ⟨more, hmore⟩ := exists_trim_lines_cons h.1 (blanks ++ s)
      refine ⟨more + above, ?_⟩
      rw [List.cons_append, hmore, habove, ← List.append_assoc, List.replicate_append_replicate]

theorem exists_trimRight_lines_of_allBlank {blanks : List Char} (h : allBlank blanks = true) :
    ∃ below, (lines blanks).map trimRight = List.replicate below [] := by
  obtain ⟨below, hbelow⟩ := exists_trim_lines_append_left h []
  rw [List.append_nil, lines, List.map_nil, List.append_nil] at hbelow
  refine ⟨below, ?_⟩
  rw [List.eq_replicate_iff] at hbelow ⊢
  refine ⟨by simpa using hbelow.1, ?_⟩
  intro line hline
  obtain ⟨whole, hwhole, rfl⟩ := List.mem_map.mp hline
  rw [trimRight_eq_nil_iff, ← trim_eq_nil_iff]
  exact hbelow.2 _ (List.mem_map_of_mem hwhole)

/-- A character in front of two texts, of which the second one has the lines of the first one and
empty lines below them. -/
theorem exists_trimRight_lines_cons {c : Char} (hc : isLineBreak c = false) {s padded : List Char}
    (h : ∃ below,
      (lines padded).map trimRight = (lines s).map trimRight ++ List.replicate below []) :
    ∃ below,
      (lines (c :: padded)).map trimRight =
        (lines (c :: s)).map trimRight ++ List.replicate below [] := by
  obtain ⟨below, hbelow⟩ := h
  rw [lines_cons_of_not_break hc, lines_cons_of_not_break hc]
  rcases hpadded : lines padded with _ | ⟨line, others⟩
  · rw [hpadded, List.map_nil, List.nil_eq_append_iff, List.map_eq_nil_iff] at hbelow
    exact ⟨0, by rw [hbelow.1]; rfl⟩
  · rw [hpadded] at hbelow
    rcases hlines : lines s with _ | ⟨first, rest⟩
    · -- The character turns the first of the empty lines into a line of its own.
      rw [hlines, List.map_nil, List.nil_append] at hbelow
      cases below with
      | zero => cases hbelow
      | succ below =>
          rw [List.map_cons, List.replicate_succ, List.cons.injEq] at hbelow
          refine ⟨below, ?_⟩
          rw [List.map_cons, hbelow.2, trimRight_cons_congr c (t := []) hbelow.1]
          rfl
    · rw [hlines, List.map_cons, List.map_cons, List.cons_append, List.cons.injEq] at hbelow
      refine ⟨below, ?_⟩
      rw [List.map_cons, List.map_cons, hbelow.2, trimRight_cons_congr c hbelow.1,
        List.cons_append]

/-- White space behind a text adds empty lines below its lines. -/
theorem exists_trimRight_lines_append_right {blanks : List Char} (h : allBlank blanks = true)
    (s : List Char) :
    ∃ below,
      (lines (s ++ blanks)).map trimRight =
        (lines s).map trimRight ++ List.replicate below [] := by
  -- The white space may follow the last line, which keeps its beginning: only the ends of lines
  -- are trimmed here.
  induction s using lines.induct with
  | case1 => exact exists_trimRight_lines_of_allBlank h
  | case2 rest ih =>
      obtain ⟨below, hbelow⟩ := ih
      refine ⟨below, ?_⟩
      rw [List.cons_append, List.cons_append, lines, lines, List.map_cons, List.map_cons, hbelow,
        List.cons_append]
  | case3 c rest hcr hbreak ih =>
      have hlines : lines (c :: rest) = [] :: lines rest := by
        rw [lines, if_pos hbreak]
        exact hcr
      rw [List.cons_append, hlines]
      rcases lines_cons_break hbreak (rest ++ blanks) with hpadded | ⟨rfl, after, hafter, hpadded⟩
      · obtain ⟨below, hbelow⟩ := ih
        exact ⟨below, by rw [hpadded, List.map_cons, List.map_cons, hbelow, List.cons_append]⟩
      · -- The line feed that completes the break is the first character of the white space.
        rcases rest with _ | ⟨d, rest⟩
        · rw [List.nil_append] at hafter
          subst hafter
          simp only [allBlank, List.all_cons, Bool.and_eq_true] at h
          obtain ⟨below, hbelow⟩ := exists_trimRight_lines_of_allBlank h.2
          exact ⟨below, by rw [hpadded, List.map_cons, hbelow]; rfl⟩
        · rw [List.cons_append, List.cons.injEq] at hafter
          exact (hcr rest rfl (by rw [hafter.1])).elim
  | case4 c rest hcr hbreak hrest ih =>
      exact exists_trimRight_lines_cons (by simpa using hbreak) ih
  | case5 c rest hcr hbreak first others hrest ih =>
      exact exists_trimRight_lines_cons (by simpa using hbreak) ih

theorem exists_trim_lines_append_right {blanks : List Char} (h : allBlank blanks = true)
    (s : List Char) :
    ∃ below, (lines (s ++ blanks)).map trim = (lines s).map trim ++ List.replicate below [] := by
  obtain ⟨below, hbelow⟩ := exists_trimRight_lines_append_right h s
  refine ⟨below, ?_⟩
  have htrim := congrArg (List.map trim) hbelow
  have hcompose : trim ∘ trimRight = trim := funext trim_trimRight
  rw [List.map_append, List.map_map, List.map_map, hcompose, List.map_replicate] at htrim
  exact htrim

/-- White space around a text adds empty lines above and below its lines. -/
theorem exists_trim_lines_padded {before after : List Char} (hbefore : allBlank before = true)
    (hafter : allBlank after = true) (s : List Char) :
    ∃ above below,
      (lines (before ++ s ++ after)).map trim =
        List.replicate above [] ++ (lines s).map trim ++ List.replicate below [] := by
  obtain ⟨above, habove⟩ := exists_trim_lines_append_left hbefore (s ++ after)
  obtain ⟨below, hbelow⟩ := exists_trim_lines_append_right hafter s
  refine ⟨above, below, ?_⟩
  rw [List.append_assoc, habove, hbelow, List.append_assoc]

/-- The lines of a text are those of its trimmed form with empty lines above and below. -/
theorem exists_trim_lines (s : List Char) :
    ∃ above below,
      (lines s).map trim =
        List.replicate above [] ++ (lines (trim s)).map trim ++ List.replicate below [] := by
  obtain ⟨before, after, hbefore, hafter, hs⟩ := exists_blanks_of_trim s
  obtain ⟨above, below, hlines⟩ := exists_trim_lines_padded hbefore hafter (trim s)
  rw [← hs] at hlines
  exact ⟨above, below, hlines⟩

theorem exists_line_of_mem_trimmed {s line : List Char} (h : line ∈ lines (trim s)) :
    ∃ whole ∈ lines s, trim line = trim whole := by
  obtain ⟨above, below, hlines⟩ := exists_trim_lines s
  have hmem : trim line ∈ (lines s).map trim := by
    rw [hlines]
    exact List.mem_append_left _ (List.mem_append_right _ (List.mem_map_of_mem h))
  obtain ⟨whole, hwhole, htrim⟩ := List.mem_map.mp hmem
  exact ⟨whole, hwhole, htrim.symm⟩

/-- The first line of a text stands before a break, or it is the whole text. -/
theorem exists_of_lines_eq_cons {s line : List Char} {others : List (List Char)}
    (h : lines s = line :: others) :
    ∃ ending rest, s = line ++ ending ++ rest ∧ lines rest = others ∧
      (∀ c ∈ ending, isLineBreak c = true) ∧ (ending = [] → rest = []) := by
  induction s using lines.induct generalizing line others with
  | case1 => cases h
  | case2 rest ih =>
      rw [lines, List.cons.injEq] at h
      obtain ⟨rfl, hothers⟩ := h
      exact ⟨['\r', '\n'], rest, rfl, hothers, List.all_eq_true.mp rfl, by simp⟩
  | case3 c rest hcr hbreak ih =>
      rw [lines, if_pos hbreak, List.cons.injEq] at h
      · obtain ⟨rfl, hothers⟩ := h
        exact ⟨[c], rest, rfl, hothers, by simpa using hbreak, by simp⟩
      · exact hcr
  | case4 c rest hcr hbreak hrest ih =>
      rw [lines_cons_of_not_break (by simpa using hbreak), hrest, List.cons.injEq] at h
      obtain ⟨rfl, rfl⟩ := h
      have hnil : rest = [] := by
        by_contra hne
        exact lines_ne_nil hne hrest
      subst hnil
      exact ⟨[], [], rfl, rfl, by simp, by simp⟩
  | case5 c rest hcr hbreak first others' hrest ih =>
      rw [lines_cons_of_not_break (by simpa using hbreak), hrest, List.cons.injEq] at h
      obtain ⟨rfl, rfl⟩ := h
      obtain ⟨ending, after, hafter, hothers, hending, hnone⟩ := ih hrest
      refine ⟨ending, after, ?_, hothers, hending, hnone⟩
      rw [hafter]
      rfl

theorem prefix_of_lines_eq_cons {s line : List Char} {others : List (List Char)}
    (h : lines s = line :: others) : line <+: s := by
  obtain ⟨ending, rest, rfl, -, -, -⟩ := exists_of_lines_eq_cons h
  rw [List.append_assoc]
  exact List.prefix_append line (ending ++ rest)

/-- What a text begins with stands on its first line, if it is without breaks. -/
theorem start_isPrefix_line {s start line : List Char} {others : List (List Char)}
    (h : lines s = line :: others) (hstart : start <+: s) (hunbroken : Unbroken start) :
    start <+: line := by
  obtain ⟨ending, rest, rfl, -, hbreaks, hnone⟩ := exists_of_lines_eq_cons h
  obtain ⟨after, hafter⟩ := hstart
  rw [List.append_assoc] at hafter
  rcases List.append_eq_append_iff.mp hafter with ⟨others, hline, -⟩ | ⟨others, rfl, hrest⟩
  · exact ⟨others, hline.symm⟩
  · rcases others with _ | ⟨c, others⟩
    · exact ⟨[], by simp⟩
    · rcases ending with _ | ⟨d, ending⟩
      · rw [hnone rfl] at hrest
        cases hrest
      · rw [List.cons_append, List.cons_append, List.cons.injEq] at hrest
        have hbreak := hbreaks d (by simp)
        rw [hrest.1, hunbroken c (by simp)] at hbreak
        cases hbreak

/-- The only line of a text that does not end with a break is the text. -/
theorem eq_of_lines_eq_singleton {s line : List Char} (h : lines s = [line])
    (hend : ∀ c, s.getLast? = some c → isLineBreak c = false) : line = s := by
  obtain ⟨ending, rest, rfl, hothers, hbreaks, -⟩ := exists_of_lines_eq_cons h
  have hrest : rest = [] := by
    by_contra hne
    exact lines_ne_nil hne hothers
  subst hrest
  rw [List.append_nil] at hend ⊢
  rcases hlast : ending.getLast? with _ | c
  · rw [List.getLast?_eq_none_iff.mp hlast, List.append_nil]
  · have hbreak := hbreaks c (List.mem_of_getLast? hlast)
    rw [hend c (by rw [List.getLast?_append, hlast]; rfl)] at hbreak
    cases hbreak

/-- The last line of a text that does not end with a break is its last piece, and it holds what the
text ends with, if that is without breaks. -/
theorem suffix_of_getLast?_lines {s line : List Char} (h : (lines s).getLast? = some line)
    (hend : ∀ c, s.getLast? = some c → isLineBreak c = false) :
    line <:+ s ∧ ∀ tail, tail <:+ s → Unbroken tail → tail <:+ line := by
  generalize hlines : lines s = content at h
  induction content generalizing s with
  | nil => cases h
  | cons first others ih =>
      rcases others with _ | ⟨second, others⟩
      · rw [List.getLast?_singleton, Option.some.injEq] at h
        subst h
        rw [eq_of_lines_eq_singleton hlines hend]
        exact ⟨List.suffix_refl s, fun tail htail _ => htail⟩
      · obtain ⟨ending, rest, rfl, hothers, hbreaks, hnone⟩ := exists_of_lines_eq_cons hlines
        have hrest : rest ≠ [] := by
          rintro rfl
          cases hothers
        rw [List.getLast?_cons_cons] at h
        obtain ⟨hsuffix, hholds⟩ := ih (s := rest) (fun c hc => hend c (by
          rw [List.getLast?_append_of_ne_nil _ hrest, hc])) hothers h
        refine ⟨hsuffix.trans (List.suffix_append _ _), fun tail htail hunbroken => ?_⟩
        apply hholds tail _ hunbroken
        -- A longer ending of the text would hold the break before the rest.
        obtain ⟨before, hbefore⟩ := htail
        rcases List.append_eq_append_iff.mp hbefore with ⟨more, hmore, rfl⟩ | ⟨more, -, hmore⟩
        · rcases hlast : more.getLast? with _ | c
          · rw [List.getLast?_eq_none_iff.mp hlast]
            exact List.suffix_refl rest
          · have hopen := hunbroken c (List.mem_append_left _ (List.mem_of_getLast? hlast))
            have hending : ending ≠ [] := fun hnil => hrest (hnone hnil)
            have hc : ending.getLast? = some c := by
              rw [← List.getLast?_append_of_ne_nil first hending, hmore, List.getLast?_append,
                hlast]
              rfl
            rw [hbreaks c (List.mem_of_getLast? hc)] at hopen
            cases hopen
        · exact ⟨more, hmore.symm⟩

theorem lines_of_unbroken {s : List Char} (h : Unbroken s) (hne : s ≠ []) : lines s = [s] := by
  induction s with
  | nil => exact absurd rfl hne
  | cons c s ih =>
      rw [lines_cons_of_not_break (h c (by simp))]
      rcases s with _ | ⟨d, s⟩
      · rfl
      · rw [ih (h.of_subset (List.subset_cons_self c _)) (by simp)]

theorem lines_flatMap_feed {content : List (List Char)} (h : ∀ line ∈ content, Unbroken line)
    (rest : List Char) :
    lines ((content.flatMap fun line => line ++ ['\n']) ++ rest) = content ++ lines rest := by
  induction content with
  | nil => rfl
  | cons line others ih =>
      rw [List.forall_mem_cons] at h
      rw [List.flatMap_cons, List.append_assoc, List.append_assoc, List.singleton_append,
        lines_append_feed h.1, ih h.2, List.cons_append]

theorem lines_joined_feed {content : List (List Char)} (h : ∀ line ∈ content, Unbroken line) :
    lines (joined ['\n'] content) = content ∨ lines (joined ['\n'] content) ++ [[]] = content := by
  induction content with
  | nil => exact Or.inl rfl
  | cons line others ih =>
      rw [List.forall_mem_cons] at h
      rcases others with _ | ⟨next, others⟩
      · rcases line with _ | ⟨c, line⟩
        · exact Or.inr rfl
        · exact Or.inl (lines_of_unbroken h.1 (by simp))
      · rw [joined_cons_cons, List.append_assoc, List.singleton_append, lines_append_feed h.1,
          List.cons_append]
        rcases ih h.2 with hlines | hlines
        · exact Or.inl (by rw [hlines])
        · exact Or.inr (by rw [hlines])

theorem words_append_left {blanks : List Char} (h : allBlank blanks = true) (s : List Char) :
    words (blanks ++ s) = words s := by
  rw [← words_trimLeft, trimLeft_append_left h, words_trimLeft]

theorem flatMap_words_lines (s : List Char) : (lines s).flatMap words = words s := by
  generalize hlines : lines s = content
  induction content generalizing s with
  | nil =>
      have hnil : s = [] := by
        by_contra hne
        exact lines_ne_nil hne hlines
      subst hnil
      rfl
  | cons first others ih =>
      obtain ⟨ending, rest, rfl, hothers, hbreaks, hnone⟩ := exists_of_lines_eq_cons hlines
      rw [List.flatMap_cons, ih rest hothers]
      rcases ending with _ | ⟨c, ending⟩
      · rw [hnone rfl, List.append_nil, List.append_nil, words_nil, List.append_nil]
      · rw [List.forall_mem_cons] at hbreaks
        have hending : allBlank ending = true := by
          rw [allBlank, List.all_eq_true]
          intro d hd
          exact isBlank_of_isLineBreak (hbreaks.2 d hd)
        rw [List.append_assoc, List.cons_append,
          words_append_blank (isBlank_of_isLineBreak hbreaks.1), words_append_left hending]

end SymbolReference.Text

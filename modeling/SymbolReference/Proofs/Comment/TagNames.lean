import SymbolReference.Proofs.Comment.Canonical

namespace SymbolReference.Comment

open Text

/-- The longest stretch without white space at the front of a text. -/
def firstToken (s : List Char) : List Char :=
  s.takeWhile fun c => !isBlank c

/-- What follows the first token of a text. It begins with white space if there is any of it. -/
def afterToken (s : List Char) : List Char :=
  s.dropWhile fun c => !isBlank c

/-- Whether the first token of a text is empty, or is ended by a space, a tab or the end of the
text. -/
def EndsPlainly (s : List Char) : Prop :=
  firstToken s = [] ∨ ∀ c, (afterToken s).head? = some c → c = ' ' ∨ c = '\t'

theorem firstToken_append_afterToken (s : List Char) : firstToken s ++ afterToken s = s :=
  List.takeWhile_append_dropWhile

theorem not_blank_of_mem_firstToken {s : List Char} {c : Char} (h : c ∈ firstToken s) :
    isBlank c = false := by
  have hc := List.mem_takeWhile_imp h
  simpa using hc

theorem blank_of_head?_afterToken {s : List Char} {c : Char}
    (h : (afterToken s).head? = some c) : isBlank c = true := by
  have hc := List.head?_dropWhile_not (fun c => !isBlank c) s
  rw [afterToken] at h
  rw [h] at hc
  simpa using hc

theorem namesTag_eq_false_iff (c : Char) : namesTag c = false ↔ c = ' ' ∨ c = '\t' := by
  rw [namesTag, Bool.not_eq_false', Bool.or_eq_true, decide_eq_true_eq, decide_eq_true_eq]

theorem namesTag_of_not_blank {c : Char} (h : isBlank c = false) : namesTag c = true := by
  by_contra hc
  rw [Bool.not_eq_true, namesTag_eq_false_iff] at hc
  rcases hc with rfl | rfl
  · exact absurd h (by decide)
  · exact absurd h (by decide)

theorem takeWhile_namesTag (s : List Char) :
    s.takeWhile namesTag = firstToken s ++ (afterToken s).takeWhile namesTag := by
  have hnames : ∀ c ∈ firstToken s, namesTag c = true := fun c hc =>
    namesTag_of_not_blank (not_blank_of_mem_firstToken hc)
  conv_lhs => rw [← firstToken_append_afterToken s]
  exact List.takeWhile_append_of_pos hnames

theorem splitTag_fst (rest : List Char) :
    (splitTag rest).1 = if firstToken rest = [] then [] else rest.takeWhile namesTag := by
  cases rest with
  | nil => rfl
  | cons c rest =>
      by_cases hc : isBlank c = true
      · have htoken : firstToken (c :: rest) = [] := List.takeWhile_cons_of_neg (by simp [hc])
        rw [splitTag, if_pos hc, if_pos htoken]
      · have htoken : firstToken (c :: rest) = c :: firstToken rest :=
          List.takeWhile_cons_of_pos (by simp [hc])
        rw [splitTag, if_neg hc, if_neg (by simp [htoken])]
        rfl

theorem splitTag_fst_of_endsPlainly {rest : List Char} (h : EndsPlainly rest) :
    (splitTag rest).1 = firstToken rest := by
  rw [splitTag_fst]
  split
  · rename_i htoken
    exact htoken.symm
  · rename_i htoken
    have hend := h.resolve_left htoken
    rw [takeWhile_namesTag]
    cases hafter : afterToken rest with
    | nil => exact List.append_nil _
    | cons c after =>
        have hc : namesTag c = false := (namesTag_eq_false_iff c).mpr (hend c (by rw [hafter]; rfl))
        rw [List.takeWhile_cons_of_neg (by simp [hc]), List.append_nil]

/-- A token that ends otherwise is followed by white space that belongs to the name. -/
theorem exists_blank_of_not_endsPlainly {rest : List Char} (h : ¬EndsPlainly rest) :
    ∃ c ∈ (splitTag rest).1, isBlank c = true := by
  rw [EndsPlainly, not_or] at h
  obtain ⟨htoken, hend⟩ := h
  push Not at hend
  obtain ⟨c, hc, hspace, htab⟩ := hend
  have hnames : namesTag c = true := by simp [namesTag, hspace, htab]
  refine ⟨c, ?_, blank_of_head?_afterToken hc⟩
  obtain ⟨after, hafter⟩ : ∃ after, afterToken rest = c :: after := by
    cases hrest : afterToken rest with
    | nil => rw [hrest] at hc; cases hc
    | cons d after => rw [hrest] at hc; cases hc; exact ⟨after, rfl⟩
  rw [splitTag_fst, if_neg htoken, takeWhile_namesTag, hafter, List.takeWhile_cons_of_pos hnames]
  simp

/-- How the name of a tag is read from the content line of the tag: it is the first token after the
mark, and free of white space, exactly if this token ends plainly. -/
structure NamedFrom (line : List Char) (tag : Tag) : Prop where
  opens : line.head? = some '@'
  name : tag.name.toList =
    if firstToken line.tail = [] then [] else line.tail.takeWhile namesTag
  token : tag.name.toList = firstToken line.tail ↔ EndsPlainly line.tail
  solid : (∀ c ∈ tag.name.toList, isBlank c = false) ↔ EndsPlainly line.tail

theorem namedFrom_tagOf {line : List Char} (hopens : opensTag line = true)
    (following : List (List Char)) : NamedFrom line (tagOf line following) := by
  have hname : (tagOf line following).name.toList = (splitTag line.tail).1 := by simp [tagOf]
  have hplain : EndsPlainly line.tail → (splitTag line.tail).1 = firstToken line.tail :=
    splitTag_fst_of_endsPlainly
  have hsolid : ∀ name, (splitTag line.tail).1 = name → (∀ c ∈ name, isBlank c = false) →
      EndsPlainly line.tail := by
    rintro name rfl hname
    by_contra hend
    obtain ⟨c, hc, hblank⟩ := exists_blank_of_not_endsPlainly hend
    rw [hname c hc] at hblank
    cases hblank
  refine ⟨by simpa [opensTag] using hopens, hname.trans (splitTag_fst _), ?_, ?_⟩
  · rw [hname]
    constructor
    · intro htoken
      exact hsolid _ htoken fun c hc => not_blank_of_mem_firstToken hc
    · exact hplain
  · rw [hname]
    constructor
    · exact hsolid _ rfl
    · intro hend c hc
      rw [hplain hend] at hc
      exact not_blank_of_mem_firstToken hc

theorem forall₂_namedFrom_tagsOf (content : List (List Char)) :
    List.Forall₂ NamedFrom (content.filter opensTag) (tagsOf content) := by
  induction content with
  | nil => exact List.Forall₂.nil
  | cons line others ih =>
      cases hopens : opensTag line with
      | true =>
          rw [List.filter_cons_of_pos hopens, tagsOf, hopens, if_pos rfl]
          exact List.Forall₂.cons (namedFrom_tagOf hopens _) ih
      | false =>
          rw [List.filter_cons_of_neg (by simp [hopens]), tagsOf, hopens, if_neg (by simp)]
          exact ih

/-- The tags of a comment come, one for one and in order, from its content lines with a mark. The
name of a tag is the first token of its line, and has no white space of any kind, exactly if a space,
a tab or the end of the line ends this token; otherwise the name goes on to the next space or tab. -/
theorem tag_named_by_firstToken_iff (raw : String) :
    List.Forall₂ NamedFrom ((contentLines raw.toList).filter opensTag)
      (parse? (some raw)).tags := by
  rw [parse?_some]
  exact forall₂_namedFrom_tagsOf _

/-- A no-break space is white space and yet does not end the name of a tag. -/
theorem tag_name_keeps_noBreak_space :
    contentLines "@a\u00a0b".toList = ["@a\u00a0b".toList] ∧
      firstToken "a\u00a0b".toList = "a".toList ∧
      (parse? (some "@a\u00a0b")).tags = [⟨"a\u00a0b", ""⟩] := by
  decide

end SymbolReference.Comment

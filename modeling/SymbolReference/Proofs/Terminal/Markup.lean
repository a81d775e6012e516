import Mathlib.Data.List.TakeWhile
import SymbolReference.Cli.Display
import SymbolReference.Proofs.Text.Case

/-!
A notice about a failure stands between an opening and a closing tag, with the message escaped. No
part of the message is taken for a tag; at most the closing tag itself is plain text, when
backslashes at the end of the message make it so.
-/

namespace SymbolReference.Terminal

theorem drop_length_takeWhile {α : Type} (p : α → Bool) (s : List α) :
    s.drop (s.takeWhile p).length = s.dropWhile p := by
  have hparts := congrArg (List.drop (s.takeWhile p).length)
    (List.takeWhile_append_dropWhile (p := p) (l := s))
  rw [List.drop_left] at hparts
  exact hparts.symm

/-- Whether a text can stand between the brackets of a tag. -/
def IsTagContent (content : List Char) : Prop :=
  ∃ c inner, content = c :: inner ∧ beginsTag c = true ∧ ∀ d ∈ inner, d ≠ ']' ∧ d ≠ '['

/-- Whether the first bracket of a text, if there is one, is an opening one. -/
def OpensFirst (s : List Char) : Prop :=
  (s.dropWhile fun d => d ≠ ']' && d ≠ '[').head? ≠ some ']'

theorem tagAt?_written {content : List Char} (h : IsTagContent content) (following : List Char) :
    tagAt? ('[' :: content ++ ']' :: following) = some (content, following) := by
  obtain ⟨c, inner, rfl, hc, hinner⟩ := h
  have htake : (inner ++ ']' :: following).takeWhile (fun d => d ≠ ']' && d ≠ '[') = inner := by
    rw [List.takeWhile_append_of_pos fun d hd => by simpa using hinner d hd]
    simp
  have hdrop : (inner ++ ']' :: following).drop inner.length = ']' :: following :=
    List.drop_left
  simp only [List.cons_append, tagAt?, hc, if_true, htake, hdrop]

theorem tagAt?_eq_none_of_ne {c : Char} (h : c ≠ '[') (rest : List Char) :
    tagAt? (c :: rest) = none := by
  unfold tagAt?
  split
  · rename_i heq
    exact absurd (List.cons.inj heq).1 h
  · rfl

theorem tagAt?_bracket_eq_none_iff (c : Char) (rest : List Char) :
    tagAt? ('[' :: c :: rest) = none ↔ beginsTag c = false ∨ OpensFirst rest := by
  have hdrop : rest.drop (rest.takeWhile fun d => d ≠ ']' && d ≠ '[').length =
      rest.dropWhile fun d => d ≠ ']' && d ≠ '[' :=
    drop_length_takeWhile _ rest
  simp only [tagAt?, hdrop, OpensFirst]
  cases beginsTag c with
  | false => simp
  | true =>
      rcases (rest.dropWhile fun d => d ≠ ']' && d ≠ '[') with _ | ⟨d, following⟩
      · simp
      · by_cases hd : d = ']'
        · simp [hd]
        · simp [hd]

theorem exists_of_tagAt?_eq_some {s content following : List Char}
    (h : tagAt? s = some (content, following)) :
    IsTagContent content ∧ s = '[' :: content ++ ']' :: following := by
  unfold tagAt? at h
  split at h
  · rename_i c rest
    split at h
    · rename_i hc
      simp only [drop_length_takeWhile] at h
      split at h
      · rename_i closing hclosing
        obtain ⟨rfl, rfl⟩ := Prod.mk.inj (Option.some.inj h)
        have hrest := List.takeWhile_append_dropWhile (p := fun d => d ≠ ']' && d ≠ '[') (l := rest)
        rw [hclosing] at hrest
        refine ⟨⟨c, _, rfl, hc, fun d hd => ?_⟩, ?_⟩
        · simpa using List.mem_takeWhile_imp hd
        · rw [List.cons_append, List.cons_append, hrest]
      · cases h
    · cases h
  · cases h

/-- What stands behind the backslashes at the front of a text. -/
def afterSlashes (s : List Char) : List Char :=
  s.dropWhile (· = '\\')

theorem afterSlashes_replicate_append (k : Nat) {s : List Char} (h : s.head? ≠ some '\\') :
    (List.replicate k '\\' ++ s).takeWhile (· = '\\') = List.replicate k '\\' ∧
      afterSlashes (List.replicate k '\\' ++ s) = s := by
  have hslash : ∀ c ∈ List.replicate k '\\', decide (c = '\\') = true := by
    intro c hc
    exact decide_eq_true (List.mem_replicate.mp hc).2
  have hs : s.takeWhile (· = '\\') = [] ∧ s.dropWhile (· = '\\') = s := by
    rcases s with _ | ⟨c, s⟩
    · exact ⟨rfl, rfl⟩
    · have hc : c ≠ '\\' := fun hc => h (congrArg some hc)
      simp [hc]
  rw [afterSlashes, List.takeWhile_append_of_pos hslash, List.dropWhile_append_of_pos hslash, hs.1,
    hs.2, List.append_nil]
  exact ⟨rfl, rfl⟩

theorem takeWhile_slash_eq_replicate (s : List Char) :
    s.takeWhile (· = '\\') = List.replicate (s.takeWhile (· = '\\')).length '\\' := by
  rw [List.eq_replicate_iff]
  exact ⟨rfl, fun c hc => by simpa using List.mem_takeWhile_imp hc⟩

theorem eq_slashes_append (s : List Char) :
    s = List.replicate (s.takeWhile (· = '\\')).length '\\' ++ afterSlashes s := by
  rw [← takeWhile_slash_eq_replicate]
  exact List.takeWhile_append_dropWhile.symm

theorem afterSlashes_slash (s : List Char) : afterSlashes ('\\' :: s) = afterSlashes s := by
  simp [afterSlashes]

theorem afterSlashes_of_ne {c : Char} (h : c ≠ '\\') (s : List Char) :
    afterSlashes (c :: s) = c :: s := by
  simp [afterSlashes, h]

theorem eq_replicate_of_afterSlashes_eq_nil {s : List Char} (h : afterSlashes s = []) :
    s = List.replicate s.length '\\' := by
  have hs := eq_slashes_append s
  rw [h, List.append_nil] at hs
  have hlength := congrArg List.length hs
  rw [List.length_replicate] at hlength
  rw [hlength]
  exact hs

/-- A text and its escaped form: a tag gets a backslash, the backslashes before it are doubled, and
all else stays. -/
inductive Escapes : List Char → List Char → Prop where
  | nil : Escapes [] []
  | plain {c : Char} {rest out : List Char} (clear : tagAt? (afterSlashes (c :: rest)) = none)
      (others : Escapes rest out) : Escapes (c :: rest) (c :: out)
  | tag (k : Nat) {content following out : List Char} (isTag : IsTagContent content)
      (others : Escapes following out) :
      Escapes (List.replicate k '\\' ++ ('[' :: content ++ ']' :: following))
        (List.replicate (2 * k + 1) '\\' ++ ('[' :: content ++ ']' :: out))

theorem escapes_escapeFrom {fuel : Nat} {s : List Char} (h : s.length < fuel) :
    Escapes s (escapeFrom fuel s) := by
  induction fuel generalizing s with
  | zero => exact absurd h (Nat.not_lt_zero _)
  | succ fuel ih =>
      rcases s with _ | ⟨c, rest⟩
      · exact .nil
      · rw [escapeFrom]
        simp only [drop_length_takeWhile]
        cases htag : tagAt? ((c :: rest).dropWhile (· = '\\')) with
        | none => exact .plain htag (ih (by simpa using h))
        | some found =>
            obtain ⟨content, following⟩ := found
            obtain ⟨hcontent, hafter⟩ := exists_of_tagAt?_eq_some htag
            have hs := eq_slashes_append (c :: rest)
            have hslashes := takeWhile_slash_eq_replicate (c :: rest)
            generalize ((c :: rest).takeWhile (· = '\\')).length = k at hs hslashes
            rw [afterSlashes, hafter] at hs
            have hshorter : following.length < fuel := by
              have hlength := congrArg List.length hs
              simp only [List.length_append, List.length_cons] at hlength h
              omega
            have hout : List.replicate k '\\' ++ List.replicate k '\\' ++
                '\\' :: '[' :: content ++ ']' :: escapeFrom fuel following =
                List.replicate (2 * k + 1) '\\' ++
                  ('[' :: content ++ ']' :: escapeFrom fuel following) := by
              rw [List.replicate_append_replicate, ← Nat.two_mul, List.replicate_succ',
                List.append_assoc, List.append_assoc]
              rfl
            dsimp only
            rw [hslashes, hout, hs]
            exact .tag k hcontent (ih hshorter)

/-- The escaped text, up to the backslash that may be added at its end. -/
theorem exists_escapes_escape (s : List Char) :
    ∃ out j, Escapes s out ∧ escape s = out ++ List.replicate j '\\' := by
  have hescapes := escapes_escapeFrom (Nat.lt_succ_self s.length)
  rw [escape]
  split
  · exact ⟨_, 0, hescapes, (List.append_nil _).symm⟩
  · exact ⟨_, 1, hescapes, rfl⟩
  · exact ⟨_, 0, hescapes, (List.append_nil _).symm⟩

theorem Escapes.mem_or_slash {s out : List Char} (hout : Escapes s out) {c : Char} (hc : c ∈ out) :
    c ∈ s ∨ c = '\\' := by
  induction hout with
  | nil => cases hc
  | plain _ _ ih =>
      rcases List.mem_cons.mp hc with rfl | hc
      · exact Or.inl List.mem_cons_self
      · exact (ih hc).imp_left (List.mem_cons_of_mem _)
  | @tag k content following out _ _ ih =>
      simp only [List.mem_append, List.mem_cons, List.mem_replicate] at hc ⊢
      rcases hc with ⟨-, rfl⟩ | (hc | hc) | hc | hc
      · exact Or.inr rfl
      · exact Or.inl (Or.inr (Or.inl (Or.inl hc)))
      · exact Or.inl (Or.inr (Or.inl (Or.inr hc)))
      · exact Or.inl (Or.inr (Or.inr (Or.inl hc)))
      · exact (ih hc).imp_left fun hc => Or.inr (Or.inr (Or.inr hc))

theorem mem_or_slash_of_mem_escape {s : List Char} {c : Char} (hc : c ∈ escape s) :
    c ∈ s ∨ c = '\\' := by
  obtain ⟨out, j, hout, hescape⟩ := exists_escapes_escape s
  rw [hescape, List.mem_append] at hc
  rcases hc with hc | hc
  · exact hout.mem_or_slash hc
  · exact Or.inr (List.mem_replicate.mp hc).2

theorem Escapes.append_plain {before : List Char} (h : ∀ c ∈ before, c ≠ '\\' ∧ c ≠ '[')
    {s out : List Char} (hout : Escapes s out) : Escapes (before ++ s) (before ++ out) := by
  induction before with
  | nil => exact hout
  | cons c before ih =>
      rw [List.forall_mem_cons] at h
      refine .plain ?_ (ih h.2)
      change tagAt? (afterSlashes (c :: (before ++ s))) = none
      rw [afterSlashes_of_ne h.1.1]
      exact tagAt?_eq_none_of_ne h.1.2 _

theorem Escapes.eq_of_slashes {k : Nat} {out : List Char}
    (h : Escapes (List.replicate k '\\') out) : out = List.replicate k '\\' := by
  induction k generalizing out with
  | zero =>
      generalize hs : List.replicate 0 '\\' = s at h
      cases h with
      | nil => rfl
      | plain => cases hs
      | tag => simp at hs
  | succ k ih =>
      generalize hs : List.replicate (k + 1) '\\' = s at h
      cases h with
      | nil => cases hs
      | plain _ others =>
          obtain ⟨rfl, rfl⟩ := List.cons.inj hs
          rw [ih others]
      | tag j isTag =>
          have hmem : '[' ∈ List.replicate (k + 1) '\\' := by
            rw [hs]
            simp
          cases (List.mem_replicate.mp hmem).2

theorem OpensFirst.append_of_escapes {s out tail : List Char} (hout : Escapes s out)
    (h : OpensFirst s) (htail : OpensFirst tail) : OpensFirst (out ++ tail) := by
  induction hout with
  | nil => exact htail
  | @plain c rest out _ _ ih =>
      by_cases hbracket : c = '['
      · subst hbracket
        simp [OpensFirst]
      · have hclosing : c ≠ ']' := by
          rintro rfl
          exact h (by simp)
        have hskip : ∀ t, OpensFirst (c :: t) ↔ OpensFirst t := by
          intro t
          simp [OpensFirst, hbracket, hclosing]
        rw [List.cons_append, hskip]
        exact ih ((hskip rest).mp h)
  | tag k isTag _ _ =>
      have hslashes : ∀ t, OpensFirst (List.replicate (2 * k + 1) '\\' ++ '[' :: t) := by
        intro t
        rw [OpensFirst, List.dropWhile_append_of_pos fun c hc => by
          simp [(List.mem_replicate.mp hc).2]]
        simp
      rw [List.append_assoc]
      exact hslashes _

/-- A tag between the last text and the end. -/
structure IsEnding (tail : List Char) : Prop where
  opensFirst : OpensFirst tail
  starts : ∃ c rest, tail = c :: rest ∧ beginsTag c = false

/-- Where a text has no tag at its front, its escaped form has none either. -/
theorem Escapes.clear_append {s out tail : List Char} (hout : Escapes s out)
    (hclear : tagAt? (afterSlashes s) = none) (hrest : afterSlashes s ≠ [])
    (htail : IsEnding tail) : tagAt? (afterSlashes (out ++ tail)) = none := by
  induction hout with
  | nil => exact absurd rfl hrest
  | @plain c rest out _ others ih =>
      by_cases hslash : c = '\\'
      · subst hslash
        rw [afterSlashes_slash] at hclear hrest
        rw [List.cons_append, afterSlashes_slash]
        exact ih hclear hrest
      · rw [afterSlashes_of_ne hslash] at hclear
        rw [List.cons_append, afterSlashes_of_ne hslash]
        -- Only a bracket begins a tag; what comes after it is not escaped into closing it.
        by_cases hbracket : c = '['
        · subst hbracket
          cases others with
          | nil =>
              obtain ⟨d, more, rfl, hd⟩ := htail.starts
              exact (tagAt?_bracket_eq_none_iff d more).mpr (Or.inl hd)
          | plain _ others =>
              rw [List.cons_append, tagAt?_bracket_eq_none_iff]
              rw [tagAt?_bracket_eq_none_iff] at hclear
              exact hclear.imp_right fun hopens =>
                hopens.append_of_escapes others htail.opensFirst
          | tag k =>
              rw [List.replicate_succ]
              exact (tagAt?_bracket_eq_none_iff _ _).mpr (Or.inl rfl)
        · exact tagAt?_eq_none_of_ne hbracket _
  | tag k isTag =>
      rw [(afterSlashes_replicate_append k (by simp)).2, tagAt?_written isTag] at hclear
      cases hclear

theorem collected_eq_map (text : List Char) :
    ∃ texts : List (List Char), collected text = texts.map Segment.text := by
  unfold collected
  split
  · exact ⟨[], rfl⟩
  · exact ⟨[text.reverse], rfl⟩

theorem checkTags_texts (openTags : List OpenTag) (texts : List (List Char))
    (others : List Segment) :
    checkTags openTags (texts.map Segment.text ++ others) = checkTags openTags others := by
  induction texts with
  | nil => rfl
  | cons text texts ih =>
      rw [List.map_cons, List.cons_append, checkTags]
      exact ih

theorem segmentsFrom_plain {c : Char} {rest : List Char}
    (h : tagAt? (afterSlashes (c :: rest)) = none) (fuel position : Nat) (text : List Char) :
    segmentsFrom (fuel + 1) position text (c :: rest) =
      segmentsFrom fuel (position + 1) (c :: text) rest := by
  rw [segmentsFrom, drop_length_takeWhile, ← afterSlashes, h]

theorem segmentsFrom_tag {content : List Char} (h : IsTagContent content)
    (k fuel position : Nat) (text following : List Char) :
    segmentsFrom (fuel + 1) position text
        (List.replicate k '\\' ++ ('[' :: content ++ ']' :: following)) =
      collected text ++ collected (List.replicate (k / 2) '\\') ++
        (if k % 2 = 1 then Segment.text ('[' :: content ++ [']'])
          else .tag (position + 2 * (k / 2)) content) ::
        segmentsFrom fuel (position + k + content.length + 2) [] following := by
  have hs := afterSlashes_replicate_append k
    (show ('[' :: content ++ ']' :: following).head? ≠ some '\\' by simp)
  have htag := tagAt?_written h following
  generalize hwhole : List.replicate k '\\' ++ ('[' :: content ++ ']' :: following) = whole at hs
  rcases whole with _ | ⟨c, rest⟩
  · simp at hwhole
  · rw [segmentsFrom, drop_length_takeWhile, ← afterSlashes, hs.2, htag, hs.1, List.length_replicate]

/-- A tag after an odd number of backslashes is read as texts. -/
theorem exists_segmentsFrom_escapedTag {content : List Char} (h : IsTagContent content)
    (k fuel position : Nat) (text following : List Char) :
    ∃ texts : List (List Char),
      segmentsFrom (fuel + 1) position text
          (List.replicate (2 * k + 1) '\\' ++ ('[' :: content ++ ']' :: following)) =
        texts.map Segment.text ++
          segmentsFrom fuel (position + (2 * k + 1) + content.length + 2) [] following := by
  have hodd : (2 * k + 1) % 2 = 1 := by omega
  obtain ⟨texts, htexts⟩ := collected_eq_map text
  obtain ⟨slashes, hslashes⟩ := collected_eq_map (List.replicate ((2 * k + 1) / 2) '\\')
  refine ⟨texts ++ slashes ++ ['[' :: content ++ [']']], ?_⟩
  rw [segmentsFrom_tag h, if_pos hodd, htexts, hslashes, List.map_append, List.map_append,
    List.append_assoc (texts.map Segment.text ++ slashes.map Segment.text)]
  rfl

/-- Whether segments are texts up to the last one, which is a tag or its text. -/
def EndsWithTag (content : List Char) (found : List Segment) : Prop :=
  ∃ (texts : List (List Char)) (last : Segment), found = texts.map Segment.text ++ [last] ∧
    (last = .text ('[' :: content ++ [']']) ∨ ∃ position, last = .tag position content)

theorem EndsWithTag.append_texts {content : List Char} {found : List Segment}
    (h : EndsWithTag content found) (texts : List (List Char)) :
    EndsWithTag content (texts.map Segment.text ++ found) := by
  obtain ⟨others, last, rfl, hlast⟩ := h
  exact ⟨texts ++ others, last, by rw [List.map_append, List.append_assoc], hlast⟩

theorem endsWithTag_slashes {content : List Char} (h : IsTagContent content)
    (k fuel position : Nat) (text : List Char) :
    EndsWithTag content (segmentsFrom (fuel + 1) position text
      (List.replicate k '\\' ++ ('[' :: content ++ [']']))) := by
  obtain ⟨texts, htexts⟩ := collected_eq_map text
  obtain ⟨slashes, hslashes⟩ := collected_eq_map (List.replicate (k / 2) '\\')
  have hend : ∀ position, segmentsFrom fuel position [] [] = [] := by
    intro position
    cases fuel <;> rfl
  rw [segmentsFrom_tag h k fuel position text [], htexts, hslashes, hend, List.append_assoc]
  refine EndsWithTag.append_texts (EndsWithTag.append_texts ⟨[], _, rfl, ?_⟩ slashes) texts
  split
  · exact Or.inl rfl
  · exact Or.inr ⟨_, rfl⟩

theorem isEnding_slashes (content : List Char) (j : Nat) :
    IsEnding (List.replicate j '\\' ++ ('[' :: content ++ [']'])) where
  opensFirst := by
    rw [OpensFirst, List.dropWhile_append_of_pos fun c hc => by
      simp [(List.mem_replicate.mp hc).2]]
    simp
  starts := by
    cases j with
    | zero => exact ⟨_, _, rfl, rfl⟩
    | succ j => exact ⟨_, _, rfl, rfl⟩

/-- An escaped text before a tag is read as texts, and the tag as itself or as its text. -/
theorem Escapes.endsWithTag {s out content : List Char} (hout : Escapes s out)
    (h : IsTagContent content) (j : Nat) {fuel : Nat} (position : Nat) (text : List Char)
    (hfuel : (out ++ (List.replicate j '\\' ++ ('[' :: content ++ [']']))).length ≤ fuel) :
    EndsWithTag content (segmentsFrom fuel position text
      (out ++ (List.replicate j '\\' ++ ('[' :: content ++ [']'])))) := by
  induction hout generalizing fuel position text with
  | nil =>
      rcases fuel with _ | fuel
      · simp at hfuel
      · exact endsWithTag_slashes h j fuel position text
  | @plain c rest out hclear others ih =>
      rcases fuel with _ | fuel
      · simp at hfuel
      · by_cases hslashes : afterSlashes (c :: rest) = []
        · -- Backslashes at the very end are read together with the tag.
          have hs := eq_replicate_of_afterSlashes_eq_nil hslashes
          have hall := Escapes.plain hclear others
          rw [hs] at hall
          rw [hall.eq_of_slashes, ← List.append_assoc, List.replicate_append_replicate]
          exact endsWithTag_slashes h _ fuel position text
        · have hnext := Escapes.clear_append (.plain hclear others) hclear hslashes
            (isEnding_slashes content j)
          rw [List.cons_append] at hnext ⊢
          rw [segmentsFrom_plain hnext]
          exact ih _ _ (by simpa using hfuel)
  | @tag k inner following out hinner others ih =>
      rcases fuel with _ | fuel
      · simp at hfuel
      · have hshape : List.replicate (2 * k + 1) '\\' ++ ('[' :: inner ++ ']' :: out) ++
              (List.replicate j '\\' ++ ('[' :: content ++ [']'])) =
            List.replicate (2 * k + 1) '\\' ++ ('[' :: inner ++ ']' ::
              (out ++ (List.replicate j '\\' ++ ('[' :: content ++ [']'])))) := by
          simp only [List.append_assoc, List.cons_append]
        rw [hshape] at hfuel ⊢
        have hshorter :
            (out ++ (List.replicate j '\\' ++ ('[' :: content ++ [']']))).length ≤ fuel := by
          simp only [List.length_append, List.length_cons] at hfuel ⊢
          omega
        obtain ⟨texts, htexts⟩ := exists_segmentsFrom_escapedTag hinner k fuel position text
          (out ++ (List.replicate j '\\' ++ ('[' :: content ++ [']'])))
        rw [htexts]
        exact (ih _ [] hshorter).append_texts texts

theorem lower_bold : Text.lower "bold".toList = "bold".toList := by
  rw [Text.lower_ascii (by decide)]
  decide

theorem lower_red : Text.lower "red".toList = "red".toList := by
  rw [Text.lower_ascii (by decide)]
  decide

theorem isColour_red : isColour "red".toList = .ok true := by
  have hname : colourNames.contains (String.ofList "red".toList) = true := by decide
  unfold isColour
  rw [if_pos hname]

/-- A word that belongs to no other word names an attribute or a colour. -/
theorem describedFrom_cons (s : Style) {word : List Char} (others : List (List Char))
    {lowered : String} (hword : String.ofList (Text.lower word) = lowered)
    (h : lowered ∉ ["on", "not", "link"]) :
    s.describedFrom (word :: others) =
      match attributeIndex? lowered with
      | some index =>
        Style.describedFrom { s with attributes := s.attributes ++ [(index, true)] } others
      | none => do
        if ← isColour lowered.toList then
          Style.describedFrom { s with colour := some lowered.toList } others
        else return none := by
  rw [Style.describedFrom.eq_def]
  simp only [hword]
  split
  case h_7 => rfl
  all_goals exact absurd (by decide) h

theorem describedFrom_red (s : Style) :
    s.describedFrom ["red".toList] = .ok (some { s with colour := some "red".toList }) := by
  have hred : String.ofList (Text.lower "red".toList) = "red" := by
    rw [lower_red]
    decide
  have hindex : attributeIndex? "red" = none := by decide
  rw [describedFrom_cons s [] hred (by decide), hindex]
  simp only [isColour_red]
  rfl

theorem describedFrom_bold_red :
    ({} : Style).describedFrom ["bold".toList, "red".toList] =
      .ok (some { attributes := [(0, true)], colour := some "red".toList }) := by
  have hbold : String.ofList (Text.lower "bold".toList) = "bold" := by
    rw [lower_bold]
    decide
  have hindex : attributeIndex? "bold" = some 0 := by decide
  rw [describedFrom_cons _ _ hbold (by decide), hindex]
  exact describedFrom_red _

theorem tagName_bold_red : tagName "bold red".toList = .ok "bold red".toList := by
  have htrim : Text.trim "bold red".toList = "bold red".toList := by decide
  have hwords : Text.words "bold red".toList = ["bold".toList, "red".toList] := by decide
  have hnormal : normalName "bold red".toList = .ok "bold red".toList := by
    rw [normalName, htrim, hwords, describedFrom_bold_red]
    decide
  rw [tagName, hnormal]

theorem length_le_length_tag (content following : List Char) :
    following.length ≤ (List.replicate 0 '\\' ++ ('[' :: content ++ ']' :: following)).length := by
  simp only [List.replicate_zero, List.nil_append, List.length_append, List.length_cons]
  omega

/-- The tags of a notice about a failure: the style of the notice is opened, and it is closed unless
the message ends in backslashes that make plain text of the closing tag. -/
theorem exists_segments_failureText (message : String) :
    ∃ found, segments (Cli.failureText message) = .tag 0 "bold red".toList :: found ∧
      EndsWithTag "/bold red".toList found := by
  obtain ⟨out, j, hout, hescape⟩ := exists_escapes_escape message.toList
  have hstart : "[bold red]❌ ".toList = '[' :: "bold red".toList ++ ']' :: "❌ ".toList := by
    decide
  have hend : "[/bold red]".toList = '[' :: "/bold red".toList ++ [']'] := by decide
  have hopening : IsTagContent "bold red".toList :=
    ⟨'b', "old red".toList, by decide, rfl, by simp⟩
  have hclosing : IsTagContent "/bold red".toList :=
    ⟨'/', "bold red".toList, by decide, rfl, by simp⟩
  have hsign : ∀ c ∈ "❌ ".toList, c ≠ '\\' ∧ c ≠ '[' := by simp
  obtain ⟨following, hfollowing⟩ : ∃ following, following = "❌ ".toList ++ out ++
    (List.replicate j '\\' ++ ('[' :: "/bold red".toList ++ [']'])) := ⟨_, rfl⟩
  have hwhole : Cli.failureText message =
      List.replicate 0 '\\' ++ ('[' :: "bold red".toList ++ ']' :: following) := by
    unfold Cli.failureText
    rw [hstart, hescape, hend, hfollowing]
    simp only [List.replicate_zero, List.nil_append, List.append_assoc, List.cons_append]
  have hlength : following.length ≤ (Cli.failureText message).length := by
    rw [hwhole]
    exact length_le_length_tag _ _
  rw [hfollowing] at hlength
  have hends := (hout.append_plain hsign).endsWithTag hclosing j
    (0 + 0 + "bold red".toList.length + 2) [] hlength
  rw [← hfollowing] at hends
  refine ⟨_, ?_, hends⟩
  rw [segments]
  -- From here on the length is only the fuel.
  generalize (Cli.failureText message).length = fuel
  rw [hwhole, segmentsFrom_tag hopening]
  rfl

/-- Escaped messages are never taken for tags: the notice about a failure is well-formed markup. -/
theorem checkMarkup_failureText (message : String) :
    checkMarkup (Cli.failureText message) = .ok () := by
  obtain ⟨found, hsegments, texts, last, rfl, hlast⟩ := exists_segments_failureText message
  have hopening : splitTag "bold red".toList = ("bold red".toList, none) := by decide
  have hclosing : splitTag "/bold red".toList = ('/' :: "bold red".toList, none) := by decide
  have hopen : ∀ others, checkTags [] (.tag 0 "bold red".toList :: others) =
      checkTags [{ name := "bold red".toList }] others := by
    intro others
    rw [checkTags, hopening]
    change (tagName "bold red".toList >>= fun name => checkTags [{ name }] others) = _
    rw [tagName_bold_red]
    rfl
  rw [checkMarkup, hsegments, hopen, checkTags_texts]
  rcases hlast with rfl | ⟨position, rfl⟩
  · rfl
  · have hnonempty : (Text.trim "bold red".toList).isEmpty = false := by decide
    unfold checkTags
    simp only [hclosing, hnonempty, Bool.false_eq_true, if_false, tagName_bold_red]
    rfl

end SymbolReference.Terminal

import SymbolReference.Proofs.Page.Marks

namespace SymbolReference.Markup

open Text

/-- Text or an attribute value with its references read back. -/
def unescape : List Char → List Char
  | '&' :: 'a' :: 'm' :: 'p' :: ';' :: rest => '&' :: unescape rest
  | '&' :: 'l' :: 't' :: ';' :: rest => '<' :: unescape rest
  | '&' :: 'g' :: 't' :: ';' :: rest => '>' :: unescape rest
  | '&' :: '#' :: '3' :: '9' :: ';' :: rest => '\'' :: unescape rest
  | '&' :: '#' :: '3' :: '4' :: ';' :: rest => '"' :: unescape rest
  | c :: rest => c :: unescape rest
  | [] => []

/-- A mark, without its angle brackets, and the data up to the next mark. -/
structure Segment where
  mark : List Char
  data : List Char
deriving Repr, DecidableEq

/-- A text taken apart: the data before its first mark, and its marks with the data after them. -/
structure Dissection where
  leading : List Char
  segments : List Segment
deriving Repr, DecidableEq

/-- The segment of a text that begins after the `<` of a mark. -/
def segmentOf (piece : List Char) : Segment where
  mark := piece.takeWhile (· ≠ '>')
  data := unescape ((piece.dropWhile (· ≠ '>')).drop 1)

/-- Take a text apart. -/
def dissect (s : List Char) : Dissection where
  leading := unescape ((fields '<' s).headD [])
  segments := (fields '<' s).tail.map segmentOf

mutual

/-- A piece of markup taken apart, in front of what follows it. -/
def dissectPiece : Markup → Dissection → Dissection
  | text data, after => { after with leading := data ++ after.leading }
  | element name attributes content, after =>
    let inner := dissectPieces content ⟨[], ⟨'/' :: name.toList, after.leading⟩ :: after.segments⟩
    ⟨[], ⟨name.toList ++ writeAttributes attributes, inner.leading⟩ :: inner.segments⟩
  | void name attributes, after =>
    ⟨[], ⟨name.toList ++ writeAttributes attributes, after.leading⟩ :: after.segments⟩

/-- Consecutive pieces of markup taken apart, in front of what follows them. -/
def dissectPieces : List Markup → Dissection → Dissection
  | [], after => after
  | piece :: others, after => dissectPiece piece (dissectPieces others after)

end

theorem dissectPieces_append (pieces others : List Markup) (after : Dissection) :
    dissectPieces (pieces ++ others) after = dissectPieces pieces (dissectPieces others after) := by
  induction pieces with
  | nil => rfl
  | cons piece pieces ih => rw [List.cons_append, dissectPieces, ih, dissectPieces]

theorem unescape_cons {c : Char} (hc : c ≠ '&') (rest : List Char) :
    unescape (c :: rest) = c :: unescape rest := by
  rw [unescape]
  all_goals
    intros
    contradiction

theorem unescape_escape_append (data rest : List Char) :
    unescape (escape data ++ rest) = data ++ unescape rest := by
  induction data with
  | nil => rfl
  | cons c data ih =>
      rw [escape, List.flatMap_cons, ← escape, List.append_assoc, List.cons_append, ← ih]
      unfold escapeChar
      split
      · subst c; rfl
      · split
        · subst c; rfl
        · split
          · subst c; rfl
          · split
            · subst c; rfl
            · split
              · subst c; rfl
              · rename_i hamp _ _ _ _
                exact unescape_cons hamp _

/-- Text that holds no separator extends the first field of what follows it. -/
theorem fields_append_of_notMem {separator : Char} {s : List Char} (h : separator ∉ s)
    (rest : List Char) :
    fields separator (s ++ rest) =
      (s ++ (fields separator rest).headD []) :: (fields separator rest).tail := by
  induction s with
  | nil =>
      obtain ⟨field, others, hfields⟩ := List.exists_cons_of_ne_nil (fields_ne_nil separator rest)
      rw [List.nil_append, hfields]
      rfl
  | cons c s ih =>
      have hc : c ≠ separator := fun hc => h (by simp [hc])
      have hs : separator ∉ s := fun hs => h (List.mem_cons_of_mem c hs)
      rw [List.cons_append, fields, if_neg hc, ih hs]
      rfl

theorem dissect_escape_append (data rest : List Char) :
    dissect (escape data ++ rest) =
      { dissect rest with leading := data ++ (dissect rest).leading } := by
  have hopen : '<' ∉ escape data := fun hmem => (not_special_of_mem_escape hmem).1 rfl
  rw [dissect, fields_append_of_notMem hopen, List.headD_cons, unescape_escape_append]
  rfl

theorem segmentOf_mark {mark : List Char} (h : '>' ∉ mark) (data : List Char) :
    segmentOf (mark ++ '>' :: data) = ⟨mark, unescape data⟩ := by
  have hstays : ∀ c ∈ mark, decide (c ≠ '>') = true := fun c hc =>
    decide_eq_true fun heq => h (heq ▸ hc)
  rw [segmentOf, List.takeWhile_append_of_pos hstays, List.dropWhile_append_of_pos hstays,
    List.takeWhile_cons_of_neg (by simp), List.dropWhile_cons_of_neg (by simp), List.append_nil]
  rfl

theorem dissect_mark {mark : List Char} (h : ∀ c ∈ mark, c ≠ '<' ∧ c ≠ '>') (rest : List Char) :
    dissect ('<' :: mark ++ ['>'] ++ rest) =
      ⟨[], ⟨mark, (dissect rest).leading⟩ :: (dissect rest).segments⟩ := by
  have hopen : '<' ∉ mark ++ ['>'] := by
    intro hmem
    rcases List.mem_append.mp hmem with hmem | hmem
    · exact (h _ hmem).1 rfl
    · exact absurd hmem (by decide)
  have hclose : '>' ∉ mark := fun hmem => (h _ hmem).2 rfl
  have hfields : fields '<' ('<' :: mark ++ ['>'] ++ rest) =
      [] :: (mark ++ '>' :: (fields '<' rest).headD []) :: (fields '<' rest).tail := by
    rw [List.cons_append, List.cons_append, fields, if_pos rfl, fields_append_of_notMem hopen,
      List.append_assoc, List.singleton_append]
  simp only [dissect, hfields, List.headD_cons, List.tail_cons, List.map_cons,
    segmentOf_mark hclose]
  rfl

theorem dissect_opening {name : String} {attributes : List (String × List Char)}
    (hname : plainName name = true) (h : (attributes.all fun pair => plainName pair.1) = true)
    (rest : List Char) :
    dissect (opening name attributes ++ rest) =
      ⟨[], ⟨name.toList ++ writeAttributes attributes, (dissect rest).leading⟩ ::
        (dissect rest).segments⟩ :=
  dissect_mark (fun _ hc => not_angle_of_mem_opening hname h hc) rest

theorem dissect_closing {name : String} (hname : plainName name = true) (rest : List Char) :
    dissect (closing name ++ rest) =
      ⟨[], ⟨'/' :: name.toList, (dissect rest).leading⟩ :: (dissect rest).segments⟩ := by
  refine dissect_mark (fun c hc => ?_) rest
  rcases List.mem_cons.mp hc with rfl | hc
  · decide
  · exact ⟨fun heq => notMem_of_plainName hname (by decide) (heq ▸ hc),
      fun heq => notMem_of_plainName hname (by decide) (heq ▸ hc)⟩

mutual

theorem dissect_write_append : (piece : Markup) → wellNamed piece = true → (rest : List Char) →
    dissect (write piece ++ rest) = dissectPiece piece (dissect rest)
  | text data, _, rest => dissect_escape_append data rest
  | element name attributes content, h, rest => by
      simp only [wellNamed, Bool.and_eq_true] at h
      obtain ⟨⟨⟨hname, -⟩, hattributes⟩, hcontent⟩ := h
      rw [write, List.append_assoc, List.append_assoc, dissect_opening hname hattributes,
        dissect_writeAll_append content hcontent, dissect_closing hname]
      rfl
  | void name attributes, h, rest => by
      simp only [wellNamed, Bool.and_eq_true, beq_iff_eq] at h
      obtain ⟨rfl, hattributes⟩ := h
      exact dissect_opening (by decide) hattributes rest

theorem dissect_writeAll_append : (pieces : List Markup) → wellNamedAll pieces = true →
    (rest : List Char) →
    dissect (writeAll pieces ++ rest) = dissectPieces pieces (dissect rest)
  | [], _, _ => rfl
  | piece :: others, h, rest => by
      simp only [wellNamedAll, Bool.and_eq_true] at h
      rw [writeAll, List.append_assoc, dissect_write_append piece h.1,
        dissect_writeAll_append others h.2]
      rfl

end

theorem dissect_writeAll {pieces : List Markup} (h : wellNamedAll pieces = true) :
    dissect (writeAll pieces) = dissectPieces pieces ⟨[], []⟩ := by
  have hwritten := dissect_writeAll_append pieces h []
  rwa [List.append_nil] at hwritten

end SymbolReference.Markup

import SymbolReference.Page.Markup
import SymbolReference.Proofs.Text.Fields

namespace SymbolReference.Markup

open Text

/-- The marks of a text, given the mark that is already begun. -/
def marksFrom : Option (List Char) → List Char → List (List Char)
  | none, [] => []
  | some begun, [] => [begun]
  | none, c :: rest => if c = '<' then marksFrom (some ['<']) rest else marksFrom none rest
  | some begun, c :: rest =>
    if c = '>' then (begun ++ ['>']) :: marksFrom none rest
    else marksFrom (some (begun ++ [c])) rest

/-- The marks of a text: each goes from a `<` to the next `>`. -/
def marks (s : List Char) : List (List Char) :=
  marksFrom none s

/-- Whether the piece before a quote names an attribute whose value is data. -/
def namesData (before : List Char) : Bool :=
  (fields ' ' before).getLast? == some "title=".toList ||
    (fields ' ' before).getLast? == some "src=".toList

/-- The pieces of a mark between its quotes written one after the other, the values of `title` and
`src` left blank. -/
def blankPieces : List (List Char) → List Char
  | [] => []
  | [last] => last
  | before :: value :: others =>
    before ++ '"' :: (if namesData before then [] else value) ++ '"' :: blankPieces others

/-- A mark with the values of `title` and `src` left blank. -/
def blankMark (mark : List Char) : List Char :=
  blankPieces (fields '"' mark)

/-- Whether marks are properly nested inside elements of which the innermost comes first: every
closing mark closes the innermost open element, and all are closed in the end. An `input` stays
without content. -/
def nestedIn : List (List Char) → List (List Char) → Bool
  | enclosing, [] => enclosing.isEmpty
  | enclosing, ('<' :: '/' :: rest) :: others =>
    match enclosing with
    | [] => false
    | name :: outer => rest == name ++ ['>'] && nestedIn outer others
  | enclosing, ('<' :: rest) :: others =>
    let name := rest.takeWhile Char.isAlphanum
    if name = "input".toList then nestedIn enclosing others
    else nestedIn (name :: enclosing) others
  | _, _ :: _ => false

/-- The references that stand for special characters. -/
def references : List (List Char) :=
  ["&amp;".toList, "&lt;".toList, "&gt;".toList, "&#39;".toList, "&#34;".toList]

/-- Every ampersand of a text begins a reference. -/
def Referring (s : List Char) : Prop :=
  ∀ rest, '&' :: rest <:+ s → ∃ reference ∈ references, reference <+: '&' :: rest

/-- A name of letters and digits. -/
def plainName (s : String) : Bool :=
  s.toList.all Char.isAlphanum

mutual

/-- Elements and attributes have plain names, and `input` is the element without content. -/
def wellNamed : Markup → Bool
  | text _ => true
  | element name attributes content =>
    plainName name && name != "input" && (attributes.all fun pair => plainName pair.1) &&
      wellNamedAll content
  | void name attributes => name == "input" && attributes.all fun pair => plainName pair.1

/-- Consecutive pieces are well named. -/
def wellNamedAll : List Markup → Bool
  | [] => true
  | piece :: others => wellNamed piece && wellNamedAll others

end

mutual

/-- The marks of a piece of markup in order. -/
def marksOf : Markup → List (List Char)
  | text _ => []
  | element name attributes content =>
    opening name attributes :: marksOfAll content ++ [closing name]
  | void name attributes => [opening name attributes]

/-- The marks of consecutive pieces of markup. -/
def marksOfAll : List Markup → List (List Char)
  | [] => []
  | piece :: others => marksOf piece ++ marksOfAll others

end

@[simp] theorem wellNamedAll_append (pieces others : List Markup) :
    wellNamedAll (pieces ++ others) = (wellNamedAll pieces && wellNamedAll others) := by
  induction pieces with
  | nil => rfl
  | cons piece pieces ih => rw [List.cons_append, wellNamedAll, wellNamedAll, ih, Bool.and_assoc]

theorem wellNamedAll_flatMap {α : Type} {f : α → List Markup}
    (h : ∀ x, wellNamedAll (f x) = true) (xs : List α) : wellNamedAll (xs.flatMap f) = true := by
  induction xs with
  | nil => rfl
  | cons x xs ih => rw [List.flatMap_cons, wellNamedAll_append, h, ih, Bool.and_self]

/-- A character is written as a reference, or as it is when it is not special. -/
theorem escapeChar_cases (c : Char) :
    escapeChar c ∈ references ∨
      escapeChar c = [c] ∧ c ≠ '&' ∧ c ≠ '<' ∧ c ≠ '>' ∧ c ≠ '"' ∧ c ≠ '\'' := by
  unfold escapeChar
  split
  · exact Or.inl (by decide)
  · split
    · exact Or.inl (by decide)
    · split
      · exact Or.inl (by decide)
      · split
        · exact Or.inl (by decide)
        · split
          · exact Or.inl (by decide)
          · exact Or.inr ⟨rfl, by assumption, by assumption, by assumption, by assumption,
              by assumption⟩

theorem not_special_of_mem_escape {c : Char} {data : List Char} (h : c ∈ escape data) :
    c ≠ '<' ∧ c ≠ '>' ∧ c ≠ '"' ∧ c ≠ '\'' := by
  have hreferences : (references.all fun reference => reference.all fun c =>
      decide (c ≠ '<' ∧ c ≠ '>' ∧ c ≠ '"' ∧ c ≠ '\'')) = true := by decide
  obtain ⟨d, -, hc⟩ := List.mem_flatMap.mp h
  rcases escapeChar_cases d with hd | ⟨hd, -, hspecial⟩
  · have hreference := List.all_eq_true.mp hreferences _ hd
    exact of_decide_eq_true (List.all_eq_true.mp hreference c hc)
  · rw [hd, List.mem_singleton] at hc
    rw [hc]
    exact hspecial

theorem Referring.append {s t : List Char} (hs : Referring s) (ht : Referring t) :
    Referring (s ++ t) := by
  rintro rest ⟨before, h⟩
  rcases List.append_eq_append_iff.mp h with ⟨middle, hmiddle, hrest⟩ | ⟨middle, -, hrest⟩
  · rcases middle with _ | ⟨c, middle⟩
    · exact ht rest ⟨[], hrest⟩
    · obtain ⟨rfl, rfl⟩ := List.cons.inj hrest
      obtain ⟨reference, hreference, hstart⟩ := hs middle ⟨before, hmiddle.symm⟩
      exact ⟨reference, hreference, hstart.trans (List.prefix_append ('&' :: middle) t)⟩
  · exact ht rest ⟨middle, hrest.symm⟩

theorem Referring.of_notMem {s : List Char} (h : '&' ∉ s) : Referring s :=
  fun _ hsuffix => absurd (hsuffix.subset (by simp)) h

theorem Referring.of_mem_references {s : List Char} (h : s ∈ references) : Referring s := by
  -- The ampersand of a reference is its first character, so what begins there is all of it.
  have honce : ∀ reference ∈ references,
      reference = '&' :: reference.tail ∧ '&' ∉ reference.tail := by decide
  obtain ⟨hfirst, hothers⟩ := honce s h
  intro rest hrest
  rw [hfirst] at hrest
  rcases List.suffix_cons_iff.mp hrest with heq | hrest
  · have hwhole : '&' :: rest = s := heq.trans hfirst.symm
    exact ⟨s, h, hwhole ▸ List.prefix_refl s⟩
  · exact absurd (hrest.subset (by simp)) hothers

theorem referring_escape (data : List Char) : Referring (escape data) := by
  induction data with
  | nil => exact Referring.of_notMem (by simp [escape])
  | cons c data ih =>
      have hc : Referring (escapeChar c) := by
        rcases escapeChar_cases c with hc | ⟨hc, hne, -⟩
        · exact Referring.of_mem_references hc
        · rw [hc]
          exact Referring.of_notMem (by simpa using hne.symm)
      exact hc.append ih

theorem marksFrom_none_append {s : List Char} (h : '<' ∉ s) (rest : List Char) :
    marksFrom none (s ++ rest) = marksFrom none rest := by
  induction s with
  | nil => rfl
  | cons c s ih =>
      have hc : c ≠ '<' := fun hc => h (by simp [hc])
      have hs : '<' ∉ s := fun hs => h (List.mem_cons_of_mem c hs)
      rw [List.cons_append, marksFrom, if_neg hc, ih hs]

theorem marksFrom_some_append {s : List Char} (h : '>' ∉ s) (begun rest : List Char) :
    marksFrom (some begun) (s ++ '>' :: rest) = (begun ++ s ++ ['>']) :: marksFrom none rest := by
  induction s generalizing begun with
  | nil => simp [marksFrom]
  | cons c s ih =>
      have hc : c ≠ '>' := fun hc => h (by simp [hc])
      have hs : '>' ∉ s := fun hs => h (List.mem_cons_of_mem c hs)
      rw [List.cons_append, marksFrom, if_neg hc, ih hs]
      simp

/-- What begins with `<` and has its first `>` at the end is one mark. -/
theorem marksFrom_mark {s : List Char} (h : '>' ∉ s) (rest : List Char) :
    marksFrom none (('<' :: s ++ ['>']) ++ rest) = ('<' :: s ++ ['>']) :: marksFrom none rest := by
  have hmark := marksFrom_some_append h ['<'] rest
  simpa [marksFrom] using hmark

/-- Where the characters of written attributes come from. -/
theorem of_mem_writeAttributes {attributes : List (String × List Char)}
    (h : (attributes.all fun pair => plainName pair.1) = true) {c : Char}
    (hc : c ∈ writeAttributes attributes) :
    c.isAlphanum = true ∨ c ∈ [' ', '=', '"'] ∨ ∃ data, c ∈ escape data := by
  obtain ⟨pair, hpair, hc⟩ := List.mem_flatMap.mp hc
  have hname : plainName pair.1 = true := List.all_eq_true.mp h pair hpair
  simp only [List.cons_append, List.mem_cons, List.mem_append, List.append_assoc, List.not_mem_nil,
    or_false] at hc
  rcases hc with rfl | hc | rfl | rfl | hc | rfl
  · simp
  · exact Or.inl (List.all_eq_true.mp hname c hc)
  · simp
  · simp
  · exact Or.inr (Or.inr ⟨pair.2, hc⟩)
  · simp

/-- No data and no plain name holds an angle bracket. -/
theorem not_angle_of_mem_opening {name : String} {attributes : List (String × List Char)}
    (hname : plainName name = true)
    (h : (attributes.all fun pair => plainName pair.1) = true) {c : Char}
    (hc : c ∈ name.toList ++ writeAttributes attributes) : c ≠ '<' ∧ c ≠ '>' := by
  have halphanum : ∀ {d : Char}, d.isAlphanum = true → d ≠ '<' ∧ d ≠ '>' := by
    rintro d hd
    constructor
    · rintro rfl
      exact absurd hd (by decide)
    · rintro rfl
      exact absurd hd (by decide)
  rcases List.mem_append.mp hc with hc | hc
  · exact halphanum (List.all_eq_true.mp hname c hc)
  · rcases of_mem_writeAttributes h hc with hc | hc | ⟨data, hc⟩
    · exact halphanum hc
    · have hmarks : ([' ', '=', '"'].all fun d => decide (d ≠ '<' ∧ d ≠ '>')) = true := by decide
      exact of_decide_eq_true (List.all_eq_true.mp hmarks c hc)
    · obtain ⟨hlt, hgt, -⟩ := not_special_of_mem_escape hc
      exact ⟨hlt, hgt⟩

theorem marksFrom_opening {name : String} {attributes : List (String × List Char)}
    (hname : plainName name = true)
    (h : (attributes.all fun pair => plainName pair.1) = true) (rest : List Char) :
    marksFrom none (opening name attributes ++ rest) =
      opening name attributes :: marksFrom none rest :=
  marksFrom_mark (fun hmem => (not_angle_of_mem_opening hname h hmem).2 rfl) rest

theorem marksFrom_closing {name : String} (hname : plainName name = true) (rest : List Char) :
    marksFrom none (closing name ++ rest) = closing name :: marksFrom none rest := by
  refine marksFrom_mark (s := '/' :: name.toList) (fun hmem => ?_) rest
  rcases List.mem_cons.mp hmem with hmem | hmem
  · exact absurd hmem (by decide)
  · exact absurd (List.all_eq_true.mp hname _ hmem) (by decide)

mutual

/-- The marks of a written piece are its own, whatever stands in its texts and attributes. -/
theorem marksFrom_write : (piece : Markup) → wellNamed piece = true → (rest : List Char) →
    marksFrom none (write piece ++ rest) = marksOf piece ++ marksFrom none rest
  | text data, _, rest => by
      rw [write, marksOf, List.nil_append]
      exact marksFrom_none_append (fun hmem => (not_special_of_mem_escape hmem).1 rfl) rest
  | element name attributes content, h, rest => by
      simp only [wellNamed, Bool.and_eq_true] at h
      obtain ⟨⟨⟨hname, -⟩, hattributes⟩, hcontent⟩ := h
      rw [write, List.append_assoc, List.append_assoc, marksFrom_opening hname hattributes,
        marksFrom_writeAll content hcontent, marksFrom_closing hname]
      simp [marksOf]
  | void name attributes, h, rest => by
      simp only [wellNamed, Bool.and_eq_true, beq_iff_eq] at h
      obtain ⟨rfl, hattributes⟩ := h
      rw [write, marksFrom_opening (by decide) hattributes]
      simp [marksOf]

theorem marksFrom_writeAll : (pieces : List Markup) → wellNamedAll pieces = true →
    (rest : List Char) →
    marksFrom none (writeAll pieces ++ rest) = marksOfAll pieces ++ marksFrom none rest
  | [], _, _ => rfl
  | piece :: others, h, rest => by
      simp only [wellNamedAll, Bool.and_eq_true] at h
      rw [writeAll, List.append_assoc, marksFrom_write piece h.1, marksFrom_writeAll others h.2]
      simp [marksOfAll]

end

theorem marks_writeAll {pieces : List Markup} (h : wellNamedAll pieces = true) :
    marks (writeAll pieces) = marksOfAll pieces := by
  have hmarks := marksFrom_writeAll pieces h []
  simpa [marks, marksFrom] using hmarks

theorem takeWhile_opening {name : String} (hname : plainName name = true)
    (attributes : List (String × List Char)) :
    (name.toList ++ writeAttributes attributes ++ ['>']).takeWhile Char.isAlphanum =
      name.toList := by
  rw [List.append_assoc, List.takeWhile_append_of_pos (List.all_eq_true.mp hname)]
  rcases attributes with _ | ⟨pair, attributes⟩
  · simp [writeAttributes]
  · simp [writeAttributes]

theorem nestedIn_opening {name : String} (hname : plainName name = true)
    (attributes : List (String × List Char)) (enclosing others : List (List Char)) :
    nestedIn enclosing (opening name attributes :: others) =
      if name = "input" then nestedIn enclosing others
      else nestedIn (name.toList :: enclosing) others := by
  have hslash : ∀ rest, name.toList ++ writeAttributes attributes ++ ['>'] ≠ '/' :: rest := by
    intro rest heq
    have hread := takeWhile_opening hname attributes
    rw [heq, List.takeWhile_cons_of_neg (by decide)] at hread
    rcases attributes with _ | ⟨pair, attributes⟩
    · simp [← hread, writeAttributes] at heq
    · simp [← hread, writeAttributes] at heq
  rw [opening, List.cons_append, List.cons_append, nestedIn]
  · rw [takeWhile_opening hname]
    simp only [String.toList_inj]
  · exact hslash

mutual

/-- A piece leaves the elements around it open as they are. -/
theorem nestedIn_marksOf : (piece : Markup) → wellNamed piece = true →
    (enclosing others : List (List Char)) →
    nestedIn enclosing (marksOf piece ++ others) = nestedIn enclosing others
  | text data, _, enclosing, others => rfl
  | element name attributes content, h, enclosing, others => by
      simp only [wellNamed, Bool.and_eq_true, bne_iff_ne] at h
      obtain ⟨⟨⟨hname, hinput⟩, -⟩, hcontent⟩ := h
      rw [marksOf, List.cons_append, List.cons_append, nestedIn_opening hname, if_neg hinput,
        List.append_assoc, nestedIn_marksOfAll content hcontent]
      simp [closing, nestedIn]
  | void name attributes, h, enclosing, others => by
      simp only [wellNamed, Bool.and_eq_true, beq_iff_eq] at h
      obtain ⟨rfl, -⟩ := h
      rw [marksOf, List.singleton_append, nestedIn_opening (by decide), if_pos rfl]

theorem nestedIn_marksOfAll : (pieces : List Markup) → wellNamedAll pieces = true →
    (enclosing others : List (List Char)) →
    nestedIn enclosing (marksOfAll pieces ++ others) = nestedIn enclosing others
  | [], _, _, _ => rfl
  | piece :: pieces, h, enclosing, others => by
      simp only [wellNamedAll, Bool.and_eq_true] at h
      rw [marksOfAll, List.append_assoc, nestedIn_marksOf piece h.1,
        nestedIn_marksOfAll pieces h.2]

end

theorem nestedIn_marks_writeAll {pieces : List Markup} (h : wellNamedAll pieces = true) :
    nestedIn [] (marks (writeAll pieces)) = true := by
  have hnested := nestedIn_marksOfAll pieces h [] []
  rw [List.append_nil] at hnested
  rw [marks_writeAll h, hnested]
  rfl

example : nestedIn [] (marks "<p>a<b>c</p></b>".toList) = false := by decide

/-- An attribute without its value when the value is data. -/
def blankAttribute (pair : String × List Char) : String × List Char :=
  (pair.1, if pair.1 = "title" ∨ pair.1 = "src" then [] else pair.2)

theorem notMem_of_plainName {name : String} (h : plainName name = true) {c : Char}
    (hc : c.isAlphanum = false) : c ∉ name.toList := fun hmem =>
  absurd (List.all_eq_true.mp h c hmem) (by simp [hc])

theorem namesData_attribute {name : String} (h : plainName name = true) (before : List Char) :
    namesData (before ++ ' ' :: (name.toList ++ ['='])) =
      decide (name = "title" ∨ name = "src") := by
  have hspace : ' ' ∉ name.toList ++ ['='] := by
    simp [notMem_of_plainName h (c := ' ') (by decide)]
  have htitle : "title=".toList = "title".toList ++ ['='] := by decide
  have hsrc : "src=".toList = "src".toList ++ ['='] := by decide
  rw [namesData, fields_append_cons, fields_of_notMem hspace, List.getLast?_concat, htitle, hsrc]
  apply Bool.eq_iff_iff.mpr
  simp only [Bool.or_eq_true, beq_iff_eq, Option.some.injEq, List.append_cancel_right_eq,
    String.toList_inj, decide_eq_true_eq]

theorem blankPieces_quoted {before value : List Char} (hbefore : '"' ∉ before)
    (hvalue : '"' ∉ value) (rest : List Char) :
    blankPieces (fields '"' (before ++ '"' :: (value ++ '"' :: rest))) =
      before ++ '"' :: (if namesData before then [] else value) ++
        '"' :: blankPieces (fields '"' rest) := by
  rw [fields_append_cons, fields_of_notMem hbefore, fields_append_cons, fields_of_notMem hvalue]
  rfl

theorem blankPieces_attributes {attributes : List (String × List Char)}
    (h : (attributes.all fun pair => plainName pair.1) = true) {before : List Char}
    (hbefore : '"' ∉ before) :
    blankPieces (fields '"' (before ++ (writeAttributes attributes ++ ['>']))) =
      before ++ (writeAttributes (attributes.map blankAttribute) ++ ['>']) := by
  induction attributes generalizing before with
  | nil =>
      rw [fields_of_notMem (by simpa [writeAttributes] using hbefore)]
      rfl
  | cons pair attributes ih =>
      obtain ⟨name, value⟩ := pair
      simp only [List.all_cons, Bool.and_eq_true] at h
      have hname : '"' ∉ before ++ ' ' :: (name.toList ++ ['=']) := by
        simp [hbefore, notMem_of_plainName h.1 (c := '"') (by decide)]
      have hvalue : '"' ∉ escape value := fun hmem => (not_special_of_mem_escape hmem).2.2.1 rfl
      have hrest := ih h.2 List.not_mem_nil
      rw [List.nil_append, List.nil_append] at hrest
      have hwritten : before ++ (writeAttributes ((name, value) :: attributes) ++ ['>']) =
          before ++ ' ' :: (name.toList ++ ['=']) ++
            '"' :: (escape value ++ '"' :: (writeAttributes attributes ++ ['>'])) := by
        simp [writeAttributes]
      rw [hwritten, blankPieces_quoted hname hvalue, namesData_attribute h.1, hrest]
      by_cases hdata : name = "title" ∨ name = "src"
      · simp [writeAttributes, blankAttribute, escape, hdata]
      · simp [writeAttributes, blankAttribute, hdata]

theorem blankMark_opening {name : String} {attributes : List (String × List Char)}
    (hname : plainName name = true) (h : (attributes.all fun pair => plainName pair.1) = true) :
    blankMark (opening name attributes) = opening name (attributes.map blankAttribute) := by
  have hbefore : '"' ∉ '<' :: name.toList := by
    simp [notMem_of_plainName hname (c := '"') (by decide)]
  have hblank := blankPieces_attributes h hbefore
  simpa [blankMark, opening] using hblank

example : blankMark "<div class=\"a\" title=\"b c\">".toList =
    "<div class=\"a\" title=\"\">".toList := by decide

theorem blankMark_closing {name : String} (hname : plainName name = true) :
    blankMark (closing name) = closing name := by
  have hquote : '"' ∉ closing name := by
    simp [closing, notMem_of_plainName hname (c := '"') (by decide)]
  rw [blankMark, fields_of_notMem hquote]
  rfl

mutual

/-- A piece of markup without its data: texts are empty, and so are the values of `title` and
`src`. -/
def bare : Markup → Markup
  | text _ => text []
  | element name attributes content =>
    element name (attributes.map blankAttribute) (bareAll content)
  | void name attributes => void name (attributes.map blankAttribute)

/-- Consecutive pieces of markup without their data. -/
def bareAll : List Markup → List Markup
  | [] => []
  | piece :: others => bare piece :: bareAll others

end

theorem bareAll_eq_map (pieces : List Markup) : bareAll pieces = pieces.map bare := by
  induction pieces with
  | nil => rfl
  | cons piece others ih => rw [bareAll, ih, List.map_cons]

@[simp] theorem bareAll_append (pieces others : List Markup) :
    bareAll (pieces ++ others) = bareAll pieces ++ bareAll others := by
  simp only [bareAll_eq_map, List.map_append]

/-- What is left of items one after the other depends only on what is left of each. -/
theorem bareAll_flatMap_congr {α β : Type} {f g : α → List Markup} {outline : α → β}
    (h : ∀ x y, outline x = outline y → bareAll (f x) = bareAll (g y)) {xs ys : List α}
    (houtline : xs.map outline = ys.map outline) :
    bareAll (xs.flatMap f) = bareAll (ys.flatMap g) := by
  induction xs generalizing ys with
  | nil =>
      rw [List.map_nil] at houtline
      rw [List.map_eq_nil_iff.mp houtline.symm]
      rfl
  | cons x xs ih =>
      rcases ys with _ | ⟨y, ys⟩
      · simp at houtline
      · obtain ⟨hx, hxs⟩ := List.cons.inj houtline
        rw [List.flatMap_cons, List.flatMap_cons, bareAll_append, bareAll_append, h x y hx, ih hxs]

mutual

/-- The blanked marks of a piece are the marks of what is left of it without its data. -/
theorem map_blankMark_marksOf : (piece : Markup) → wellNamed piece = true →
    (marksOf piece).map blankMark = marksOf (bare piece)
  | text data, _ => rfl
  | element name attributes content, h => by
      simp only [wellNamed, Bool.and_eq_true] at h
      obtain ⟨⟨⟨hname, -⟩, hattributes⟩, hcontent⟩ := h
      simp only [marksOf, bare, List.map_cons, List.map_append, List.map_nil,
        blankMark_opening hname hattributes, blankMark_closing hname,
        map_blankMark_marksOfAll content hcontent]
  | void name attributes, h => by
      simp only [wellNamed, Bool.and_eq_true, beq_iff_eq] at h
      obtain ⟨rfl, hattributes⟩ := h
      have hinput : plainName "input" = true := by decide
      simp only [marksOf, bare, List.map_cons, List.map_nil,
        blankMark_opening hinput hattributes]

theorem map_blankMark_marksOfAll : (pieces : List Markup) → wellNamedAll pieces = true →
    (marksOfAll pieces).map blankMark = marksOfAll (bareAll pieces)
  | [], _ => rfl
  | piece :: others, h => by
      simp only [wellNamedAll, Bool.and_eq_true] at h
      rw [marksOfAll, List.map_append, map_blankMark_marksOf piece h.1,
        map_blankMark_marksOfAll others h.2]
      rfl

end

theorem map_blankMark_marks_writeAll {pieces : List Markup} (h : wellNamedAll pieces = true) :
    (marks (writeAll pieces)).map blankMark = marksOfAll (bareAll pieces) := by
  rw [marks_writeAll h, map_blankMark_marksOfAll pieces h]

/-- A text that data cannot alter: every ampersand begins a reference, and there is no single
quote. -/
structure Harmless (s : List Char) : Prop where
  referring : Referring s
  unquoted : '\'' ∉ s

theorem Harmless.append {s t : List Char} (hs : Harmless s) (ht : Harmless t) :
    Harmless (s ++ t) where
  referring := hs.referring.append ht.referring
  unquoted := by simp [hs.unquoted, ht.unquoted]

theorem harmless_escape (data : List Char) : Harmless (escape data) where
  referring := referring_escape data
  unquoted := fun hmem => (not_special_of_mem_escape hmem).2.2.2 rfl

theorem Harmless.of_notMem {s : List Char} (h : '&' ∉ s ∧ '\'' ∉ s) : Harmless s where
  referring := Referring.of_notMem h.1
  unquoted := h.2

theorem harmless_name {name : String} (h : plainName name = true) : Harmless name.toList :=
  Harmless.of_notMem ⟨notMem_of_plainName h (by decide), notMem_of_plainName h (by decide)⟩

theorem harmless_writeAttributes {attributes : List (String × List Char)}
    (h : (attributes.all fun pair => plainName pair.1) = true) :
    Harmless (writeAttributes attributes) := by
  induction attributes with
  | nil => exact Harmless.of_notMem (by simp [writeAttributes])
  | cons pair attributes ih =>
      simp only [List.all_cons, Bool.and_eq_true] at h
      have hname : Harmless ([' '] ++ pair.1.toList ++ ['=', '"']) :=
        ((Harmless.of_notMem (by decide)).append (harmless_name h.1)).append
          (Harmless.of_notMem (by decide))
      have hvalue : Harmless (escape pair.2 ++ ['"']) :=
        (harmless_escape pair.2).append (Harmless.of_notMem (by decide))
      have hall := (hname.append hvalue).append (ih h.2)
      simpa [writeAttributes] using hall

theorem harmless_opening {name : String} {attributes : List (String × List Char)}
    (hname : plainName name = true) (h : (attributes.all fun pair => plainName pair.1) = true) :
    Harmless (opening name attributes) := by
  have hbegin : Harmless (['<'] ++ name.toList) :=
    (Harmless.of_notMem (by decide)).append (harmless_name hname)
  exact (hbegin.append (harmless_writeAttributes h)).append (Harmless.of_notMem (by decide))

theorem harmless_closing {name : String} (hname : plainName name = true) :
    Harmless (closing name) := by
  have hbegin : Harmless (['<', '/'] ++ name.toList) :=
    (Harmless.of_notMem (by decide)).append (harmless_name hname)
  exact hbegin.append (Harmless.of_notMem (by decide))

mutual

/-- Whatever its data, a written piece has special characters in its marks only. -/
theorem harmless_write : (piece : Markup) → wellNamed piece = true → Harmless (write piece)
  | text data, _ => harmless_escape data
  | element name attributes content, h => by
      simp only [wellNamed, Bool.and_eq_true] at h
      obtain ⟨⟨⟨hname, -⟩, hattributes⟩, hcontent⟩ := h
      exact ((harmless_opening hname hattributes).append (harmless_writeAll content hcontent)).append
        (harmless_closing hname)
  | void name attributes, h => by
      simp only [wellNamed, Bool.and_eq_true, beq_iff_eq] at h
      obtain ⟨rfl, hattributes⟩ := h
      exact harmless_opening (by decide) hattributes

theorem harmless_writeAll : (pieces : List Markup) → wellNamedAll pieces = true →
    Harmless (writeAll pieces)
  | [], _ => Harmless.of_notMem (by simp [writeAll])
  | piece :: others, h => by
      simp only [wellNamedAll, Bool.and_eq_true] at h
      exact (harmless_write piece h.1).append (harmless_writeAll others h.2)

end

end SymbolReference.Markup

import SymbolReference.Proofs.Page.Outline
import SymbolReference.Proofs.Page.Segments

/-!
The titles of a text are read from left to right: each goes from a ` title="` to the next quote.
Quotes in data are written as references, so a quote of the page belongs to an attribute. It begins
a title if it opens the value of a `title`; the closing quote of another value could begin one only
after the source of a script, where no further quote follows.
-/

namespace SymbolReference

namespace Markup

open Text

/-- The titles of a text, given the title that is already begun. A title without a closing quote is
none. -/
def titlesFrom : Option (List Char) → List Char → List (List Char)
  | none, ' ' :: 't' :: 'i' :: 't' :: 'l' :: 'e' :: '=' :: '"' :: rest => titlesFrom (some []) rest
  | none, _ :: rest => titlesFrom none rest
  | some begun, c :: rest =>
    if c = '"' then begun :: titlesFrom none rest else titlesFrom (some (begun ++ [c])) rest
  | _, [] => []

/-- The titles of a text: each goes from a ` title="` to the next quote, and the search goes on
after that quote. -/
def titleValues (s : List Char) : List (List Char) :=
  titlesFrom none s

theorem titleValues_cons {c : Char} {rest : List Char} (h : ¬ " title=\"".toList <+: c :: rest) :
    titleValues (c :: rest) = titleValues rest := by
  rw [titleValues, titlesFrom]
  · rfl
  · rintro after rfl rfl
    exact h ⟨after, rfl⟩

theorem titlesFrom_closed {value : List Char} (h : '"' ∉ value) (begun rest : List Char) :
    titlesFrom (some begun) (value ++ '"' :: rest) = (begun ++ value) :: titleValues rest := by
  induction value generalizing begun with
  | nil => simp [titlesFrom, titleValues]
  | cons c value ih =>
      have hc : c ≠ '"' := fun hc => h (by simp [hc])
      have hvalue : '"' ∉ value := fun hmem => h (List.mem_cons_of_mem c hmem)
      rw [List.cons_append, titlesFrom, if_neg hc, ih hvalue]
      simp

theorem titleValues_append_quote {before : List Char} (h : '"' ∉ before) (rest : List Char) :
    titleValues (before ++ '"' :: rest) =
      titlesFrom (if " title=".toList <:+ before then some [] else none) rest := by
  induction before with
  | nil => rfl
  | cons c before ih =>
      have hbefore : '"' ∉ before := fun hmem => h (List.mem_cons_of_mem c hmem)
      by_cases hwhole : c :: before = " title=".toList
      · rw [hwhole, if_pos (List.suffix_refl _)]
        rfl
      · have hnone : ¬ " title=\"".toList <+: c :: (before ++ '"' :: rest) := by
          rintro ⟨after, hafter⟩
          exact hwhole (eq_of_append_cons_eq (by decide) h hafter).symm
        have hends : " title=".toList <:+ c :: before ↔ " title=".toList <:+ before := by
          rw [List.suffix_cons_iff]
          exact or_iff_right (Ne.symm hwhole)
        rw [List.cons_append, titleValues_cons hnone, ih hbefore]
        simp only [hends]

theorem titlesFrom_of_notMem {s : List Char} (h : '"' ∉ s) (begun : Option (List Char)) :
    titlesFrom begun s = [] := by
  induction s generalizing begun with
  | nil => cases begun with
    | none => rfl
    | some begun => rfl
  | cons c s ih =>
      have hc : c ≠ '"' := fun hc => h (by simp [hc])
      have hs : '"' ∉ s := fun hmem => h (List.mem_cons_of_mem c hmem)
      cases begun with
      | none =>
          have hnone : ¬ " title=\"".toList <+: c :: s := fun hstart =>
            h (hstart.subset (by decide))
          exact (titleValues_cons hnone).trans (ih hs none)
      | some begun => rw [titlesFrom, if_neg hc, ih hs]

/-- A text shows titles wherever it stands outside of a title. What is left before the text after it
has no quote, like what stands before the text itself. -/
def ShowsTitles (s : List Char) (shown : List (List Char)) : Prop :=
  ∀ before, '"' ∉ before → ∀ rest, ∃ after, '"' ∉ after ∧
    titleValues (before ++ (s ++ rest)) = shown ++ titleValues (after ++ rest)

theorem ShowsTitles.of_notMem {s : List Char} (h : '"' ∉ s) : ShowsTitles s [] := by
  intro before hbefore rest
  refine ⟨before ++ s, by simp [hbefore, h], ?_⟩
  rw [List.append_assoc]
  rfl

theorem ShowsTitles.append {s t : List Char} {shown others : List (List Char)}
    (hs : ShowsTitles s shown) (ht : ShowsTitles t others) :
    ShowsTitles (s ++ t) (shown ++ others) := by
  intro before hbefore rest
  obtain ⟨between, hbetween, hshown⟩ := hs before hbefore (t ++ rest)
  obtain ⟨after, hafter, hothers⟩ := ht between hbetween rest
  refine ⟨after, hafter, ?_⟩
  rw [List.append_assoc, hshown, hothers, List.append_assoc]

theorem quote_notMem_escape (data : List Char) : '"' ∉ escape data :=
  fun hmem => (not_special_of_mem_escape hmem).2.2.1 rfl

theorem showsTitles_text (data : List Char) : ShowsTitles (write (text data)) [] :=
  ShowsTitles.of_notMem (quote_notMem_escape data)

theorem title_isSuffix_attribute_iff {name : String} (h : plainName name = true)
    (before : List Char) :
    " title=".toList <:+ before ++ ' ' :: (name.toList ++ ['=']) ↔ name = "title" := by
  constructor
  · rintro ⟨front, hfront⟩
    have hspace : ' ' ∉ name.toList ++ ['='] := by
      simp [notMem_of_plainName h (c := ' ') (by decide)]
    have hname : "title".toList ++ ['='] = name.toList ++ ['='] :=
      eq_of_append_cons_eq_right (by decide) hspace hfront
    exact (String.toList_inj.mp (List.append_cancel_right hname)).symm
  · rintro rfl
    exact ⟨before, rfl⟩

/-- What an attribute does to the titles after it: its own value is a title when its name says so,
and otherwise the text goes on after its opening quote. -/
theorem titleValues_attribute {name : String} (hname : plainName name = true) {before : List Char}
    (hbefore : '"' ∉ before) (value rest : List Char) :
    titleValues (before ++ (writeAttributes [(name, value)] ++ rest)) =
      titlesFrom (if name = "title" then some [] else none) (escape value ++ '"' :: rest) := by
  have hquote : '"' ∉ before ++ ' ' :: (name.toList ++ ['=']) := by
    simp [hbefore, notMem_of_plainName hname (c := '"') (by decide)]
  have hwritten : before ++ (writeAttributes [(name, value)] ++ rest) =
      before ++ ' ' :: (name.toList ++ ['=']) ++ '"' :: (escape value ++ '"' :: rest) := by
    simp [writeAttributes]
  rw [hwritten, titleValues_append_quote hquote]
  simp only [title_isSuffix_attribute_iff hname]

/-- Whether an attribute neither is a title nor ends like the beginning of one. -/
def untitled (pair : String × List Char) : Bool :=
  plainName pair.1 && pair.1 != "title" && !" title=".toList.isSuffixOf (escape pair.2)

theorem showsTitles_title (value : List Char) :
    ShowsTitles (writeAttributes [("title", value)]) [escape value] := by
  intro before hbefore rest
  refine ⟨[], List.not_mem_nil, ?_⟩
  rw [titleValues_attribute (by decide) hbefore, if_pos rfl,
    titlesFrom_closed (quote_notMem_escape value)]
  rfl

theorem showsTitles_untitled {pair : String × List Char} (h : untitled pair = true) :
    ShowsTitles (writeAttributes [pair]) [] := by
  obtain ⟨name, value⟩ := pair
  simp only [untitled, Bool.and_eq_true, bne_iff_ne, Bool.not_eq_true'] at h
  obtain ⟨⟨hname, hne⟩, hvalue⟩ := h
  have hends : ¬ " title=".toList <:+ escape value := by
    rw [← List.isSuffixOf_iff_suffix, hvalue]
    exact Bool.false_ne_true
  intro before hbefore rest
  refine ⟨[], List.not_mem_nil, ?_⟩
  rw [titleValues_attribute hname hbefore, if_neg hne, ← titleValues,
    titleValues_append_quote (quote_notMem_escape value), if_neg hends]
  rfl

theorem ShowsTitles.attributes {pair : String × List Char}
    {attributes : List (String × List Char)} {shown others : List (List Char)}
    (hpair : ShowsTitles (writeAttributes [pair]) shown)
    (h : ShowsTitles (writeAttributes attributes) others) :
    ShowsTitles (writeAttributes (pair :: attributes)) (shown ++ others) := by
  have hwritten : writeAttributes (pair :: attributes) =
      writeAttributes [pair] ++ writeAttributes attributes := by
    simp [writeAttributes]
  rw [hwritten]
  exact hpair.append h

theorem showsTitles_attributes {attributes : List (String × List Char)}
    (h : attributes.all untitled = true) : ShowsTitles (writeAttributes attributes) [] := by
  induction attributes with
  | nil => exact ShowsTitles.of_notMem List.not_mem_nil
  | cons pair attributes ih =>
      rw [List.all_cons, Bool.and_eq_true] at h
      exact (showsTitles_untitled h.1).attributes (ih h.2)

theorem ShowsTitles.opening {name : String} {attributes : List (String × List Char)}
    {shown : List (List Char)} (hname : plainName name = true)
    (h : ShowsTitles (writeAttributes attributes) shown) :
    ShowsTitles (opening name attributes) shown := by
  have hstart : '"' ∉ '<' :: name.toList := by
    simp [notMem_of_plainName hname (c := '"') (by decide)]
  have hend : ShowsTitles ['>'] [] := ShowsTitles.of_notMem (by decide)
  have hall := ((ShowsTitles.of_notMem hstart).append h).append hend
  simpa [Markup.opening] using hall

theorem ShowsTitles.element {name : String} {attributes : List (String × List Char)}
    {content : List Markup} {shown inner : List (List Char)} (hname : plainName name = true)
    (hattributes : ShowsTitles (writeAttributes attributes) shown)
    (hcontent : ShowsTitles (writeAll content) inner) :
    ShowsTitles (write (element name attributes content)) (shown ++ inner) := by
  have hclosing : ShowsTitles (closing name) [] := by
    refine ShowsTitles.of_notMem ?_
    simp [closing, notMem_of_plainName hname (c := '"') (by decide)]
  have hall := ((ShowsTitles.opening hname hattributes).append hcontent).append hclosing
  simpa [write] using hall

example :
    titleValues (write (element "p" [("title", "a title=".toList)] [text " title=\"b".toList])) =
      ["a title=".toList] := by
  decide

theorem showsTitles_nil : ShowsTitles (writeAll []) [] :=
  ShowsTitles.of_notMem List.not_mem_nil

theorem ShowsTitles.cons {piece : Markup} {pieces : List Markup} {shown others : List (List Char)}
    (hpiece : ShowsTitles (write piece) shown) (h : ShowsTitles (writeAll pieces) others) :
    ShowsTitles (writeAll (piece :: pieces)) (shown ++ others) :=
  hpiece.append h

theorem writeAll_append (pieces others : List Markup) :
    writeAll (pieces ++ others) = writeAll pieces ++ writeAll others := by
  induction pieces with
  | nil => rfl
  | cons piece pieces ih => rw [List.cons_append, writeAll, writeAll, ih, List.append_assoc]

theorem ShowsTitles.pieces {pieces others : List Markup} {shown later : List (List Char)}
    (h : ShowsTitles (writeAll pieces) shown) (hothers : ShowsTitles (writeAll others) later) :
    ShowsTitles (writeAll (pieces ++ others)) (shown ++ later) := by
  rw [writeAll_append]
  exact h.append hothers

theorem ShowsTitles.onLine {piece : Markup} {shown : List (List Char)}
    (h : ShowsTitles (write piece) shown) : ShowsTitles (writeAll (onLine piece)) shown := by
  have hend : ShowsTitles (writeAll [newline]) [] := (showsTitles_text _).cons showsTitles_nil
  have hall := h.cons hend
  rwa [List.append_nil] at hall

theorem showsTitles_flatMap {α : Type} {f : α → List Markup} {shown : α → List (List Char)}
    (h : ∀ x, ShowsTitles (writeAll (f x)) (shown x)) (xs : List α) :
    ShowsTitles (writeAll (xs.flatMap f)) (xs.flatMap shown) := by
  induction xs with
  | nil => exact showsTitles_nil
  | cons x xs ih => exact (h x).pieces ih

end Markup

namespace Html

open Markup

/-- The title of a symbol as it stands on the page. -/
def shownTitle (m : Model) : List Char :=
  escape (Text.lower m.name.toList)

theorem showsTitles_line {data : List Char} : ShowsTitles (writeAll [text data]) [] :=
  (showsTitles_text data).cons showsTitles_nil

theorem showsTitles_classed {name cls : String} {content : List Markup}
    {shown : List (List Char)} (hname : plainName name = true)
    (hclass : untitled ("class", cls.toList) = true)
    (hcontent : ShowsTitles (writeAll content) shown) :
    ShowsTitles (write (classed name cls content)) shown :=
  ShowsTitles.element hname (showsTitles_untitled hclass) hcontent

theorem showsTitles_around {name cls : String} {content : List Markup}
    {shown : List (List Char)} (hname : plainName name = true)
    (hclass : untitled ("class", cls.toList) = true)
    (hcontent : ShowsTitles (writeAll content) shown) :
    ShowsTitles (writeAll (onLine (classed name cls (newline :: content)))) shown :=
  (showsTitles_classed hname hclass ((showsTitles_text _).cons hcontent)).onLine

theorem showsTitles_descriptionLines (description : String) :
    ShowsTitles (writeAll (descriptionLines description)) [] := by
  unfold descriptionLines
  split
  · exact showsTitles_nil
  · have hline : ∀ name data, plainName name = true →
        ShowsTitles (writeAll (onLine (classed name "comment" [text data]))) [] :=
      fun name data hname => (showsTitles_classed hname (by decide) showsTitles_line).onLine
    exact (hline "p" _ (by decide)).pieces (hline "pre" _ (by decide))

theorem showsTitles_tagLine (tag : Tag) : ShowsTitles (writeAll (tagLine tag)) [] := by
  have hcell : ∀ name data, plainName name = true →
      ShowsTitles (write (element name [] [text data])) [] := fun name data hname =>
    ShowsTitles.element hname (showsTitles_attributes rfl) showsTitles_line
  exact (hcell "dt" _ (by decide)).cons ((hcell "dd" _ (by decide)).cons showsTitles_line)

theorem showsTitles_tagLines (tags : List Tag) : ShowsTitles (writeAll (tagLines tags)) [] := by
  unfold tagLines
  split
  · exact showsTitles_nil
  · have htags := showsTitles_flatMap showsTitles_tagLine tags
    rw [List.flatMap_eq_nil_iff.mpr fun _ _ => rfl] at htags
    exact showsTitles_around (by decide) (by decide) htags

theorem showsTitles_locationLine (location : Option Location) :
    ShowsTitles (writeAll (locationLine location)) [] := by
  have hspan : ∀ cls data, untitled ("class", String.toList cls) = true →
      ShowsTitles (write (classed "span" cls [text data])) [] := fun cls data hclass =>
    showsTitles_classed (by decide) hclass showsTitles_line
  unfold locationLine
  split
  · exact showsTitles_nil
  · split
    · exact showsTitles_nil
    · rename_i l _ file _
      have hfile := hspan "filename" (file.toList ++ [':', ' ']) (by decide)
      refine (showsTitles_classed (by decide) (by decide) ?_).onLine
      rcases l.lineRange? with _ | range
      · exact hfile.cons showsTitles_nil
      · exact hfile.cons ((hspan "lines" _ (by decide)).cons showsTitles_nil)

theorem showsTitles_block {cls : String} (hclass : untitled ("class", cls.toList) = true)
    (m : Model) {lines : List Markup} (h : ShowsTitles (writeAll lines) []) :
    ShowsTitles (writeAll (block cls m.name lines)) [shownTitle m] := by
  have hattributes := (showsTitles_untitled hclass).attributes
    (showsTitles_title (Text.lower m.name.toList))
  exact (ShowsTitles.element (by decide) hattributes ((showsTitles_text _).cons h)).onLine

theorem showsTitles_heading (data : List Char) :
    ShowsTitles (writeAll (onLine (element "h2" [] [text data]))) [] :=
  (ShowsTitles.element (by decide) (showsTitles_attributes rfl) showsTitles_line).onLine

theorem showsTitles_symbolBlock (options : PageOptions) (m : Model) :
    ShowsTitles (writeAll (symbolBlock options m)) [shownTitle m] := by
  have hclass : untitled ("class", m.kind.label.toList) = true := by
    cases m.kind with
    | function => decide
    | klass => decide
    | method => decide
    | constant => decide
  have hlines := (((showsTitles_heading (m.kind.label.toList ++ ' ' :: m.signature)).pieces
    (showsTitles_descriptionLines m.comment.description)).pieces
    (showsTitles_tagLines (shownTags options m))).pieces
    (showsTitles_locationLine (shownLocation options m))
  exact showsTitles_block hclass m hlines

theorem showsTitles_constantBlock (m : Model) :
    ShowsTitles (writeAll (constantBlock m)) [shownTitle m] :=
  showsTitles_block (by decide) m (showsTitles_heading m.definition)

theorem showsTitles_classBlock (options : PageOptions) (m : Model) :
    ShowsTitles (writeAll (classBlock options m)) ((m :: m.methods).map shownTitle) := by
  have hmethods := showsTitles_flatMap (showsTitles_symbolBlock options) m.methods
  rw [← List.map_eq_flatMap] at hmethods
  have hwrapped : ShowsTitles (writeAll (onLine (classed "div" "methods"
      (newline :: m.methods.flatMap (symbolBlock options))))) (m.methods.map shownTitle) :=
    showsTitles_around (by decide) (by decide) hmethods
  exact showsTitles_around (by decide) (by decide)
    ((showsTitles_symbolBlock options m).pieces hwrapped)

/-- A section shows the titles of its blocks, also when it is left out. -/
theorem showsTitles_group (cls : String) (hclass : untitled ("class", cls.toList) = true)
    {blockOf : Model → List Markup} {shown : Model → List (List Char)}
    (h : ∀ m, ShowsTitles (writeAll (blockOf m)) (shown m)) (models : List Model) :
    ShowsTitles (writeAll (group cls models blockOf)) (models.flatMap shown) := by
  unfold group
  split
  · rename_i hempty
    rw [List.isEmpty_iff.mp hempty]
    exact showsTitles_nil
  · exact showsTitles_around (by decide) hclass (showsTitles_flatMap h models)

theorem showsTitles_searchLine : ShowsTitles (writeAll searchLine) [] := by
  have hinput : ∀ attributes : List (String × List Char), attributes.all untitled = true →
      ShowsTitles (write (void "input" attributes)) [] := fun _ h =>
    ShowsTitles.opening (by decide) (showsTitles_attributes h)
  exact (showsTitles_text _).cons ((hinput _ (by decide)).cons showsTitles_line)

theorem showsTitles_pageContent (options : PageOptions) (d : Document) :
    ShowsTitles (writeAll (pageContent options d)) (d.symbols.map shownTitle) := by
  have hsearch : ShowsTitles (writeAll (if options.searchable then searchLine else [])) [] := by
    cases options.searchable with
    | false => exact showsTitles_nil
    | true => exact showsTitles_searchLine
  have hfunctions := showsTitles_group "functions" (by decide)
    (showsTitles_symbolBlock options) d.functions
  have hclasses := showsTitles_group "classes" (by decide)
    (showsTitles_classBlock options) d.classes
  have hconstants := showsTitles_group "constants" (by decide)
    showsTitles_constantBlock d.constants
  have hall := ((((showsTitles_text ['\n']).cons hsearch).pieces hfunctions).pieces hclasses).pieces
    hconstants
  rw [Document.symbols, List.map_append, List.map_append, List.map_flatMap, List.map_eq_flatMap,
    List.map_eq_flatMap]
  exact hall

theorem titleValues_append_script {before : List Char} (h : '"' ∉ before) (source : List Char) :
    titleValues (before ++ writeAll (onLine (element "script" [("src", source)] []))) = [] := by
  have hwritten : before ++ writeAll (onLine (element "script" [("src", source)] [])) =
      before ++ "<script".toList ++
        (writeAttributes [("src", source)] ++ "></script>\n".toList) := by
    simp [onLine, newline, writeAll, write, opening, closing, escape, escapeChar]
  have hstart : '"' ∉ before ++ "<script".toList := by simp [h]
  -- The source may end in ` title=`, but no quote follows the one that closes it.
  rw [hwritten, titleValues_attribute (by decide) hstart, if_neg (by decide), ← titleValues,
    titleValues_append_quote (quote_notMem_escape source)]
  exact titlesFrom_of_notMem (by decide) _

theorem titleValues_append_scriptLines {before : List Char} (h : '"' ∉ before)
    (script : Option String) : titleValues (before ++ writeAll (scriptLines script)) = [] := by
  have hnone : titleValues (before ++ []) = [] := by
    rw [List.append_nil]
    exact titlesFrom_of_notMem h none
  unfold scriptLines
  split
  · exact hnone
  · split
    · exact hnone
    · rename_i source _
      have hlink : ShowsTitles (write (element "a" [("href", ['#']),
          ("onclick", "symrefOpen(); return false;".toList)] [label "[Reference]"])) [] :=
        ShowsTitles.element (by decide) (showsTitles_attributes (by decide)) showsTitles_line
      have hline : ShowsTitles (writeAll (onLine (classed "div" "symref-trailer" [_]))) [] :=
        (showsTitles_classed (by decide) (by decide) (hlink.cons showsTitles_nil)).onLine
      obtain ⟨after, hafter, htitles⟩ :=
        hline before h (writeAll (onLine (element "script" [("src", source.toList)] [])))
      rw [trailer, writeAll_append, htitles, titleValues_append_script hafter]
      rfl

/-- The titles of the page are those of the symbols, in their order. -/
theorem titleValues_page (options : PageOptions) (d : Document) :
    titleValues (writeAll (page options d)) = d.symbols.map shownTitle := by
  have hdiv : ShowsTitles (writeAll (onLine (element "div" [("id", "symref".toList)]
      (pageContent options d)))) (d.symbols.map shownTitle) :=
    (ShowsTitles.element (by decide) (showsTitles_attributes (by decide))
      (showsTitles_pageContent options d)).onLine
  obtain ⟨after, hafter, htitles⟩ :=
    hdiv [] List.not_mem_nil (writeAll (scriptLines options.scriptSource))
  rw [page_eq, writeAll_append]
  refine htitles.trans ?_
  rw [titleValues_append_scriptLines hafter, List.append_nil]

end Html

open Markup

/-- The titles of the HTML page are the lower-case names of the symbols of the document in their
order, so there are as many as the document counts in all its sections. -/
theorem html_titles_eq_symbol_names (options : PageOptions) (d : Document) :
    (titleValues (d.render .html options).toList).map unescape =
        d.symbols.map (fun m => Text.lower m.name.toList) ∧
      (titleValues (d.render .html options).toList).length = d.symbolCount ∧
      d.symbolCount = d.counts.total := by
  have hpage : titleValues (d.render .html options).toList = d.symbols.map Html.shownTitle := by
    rw [← Html.titleValues_page options d]
    exact congrArg titleValues String.toList_ofList
  refine ⟨?_, ?_, symbolCount_eq_total d⟩
  · rw [hpage, List.map_map]
    refine List.map_congr_left fun m _ => ?_
    have hread := unescape_escape_append (Text.lower m.name.toList) []
    simpa [Html.shownTitle, unescape] using hread
  · rw [hpage, List.length_map, Document.symbolCount]

end SymbolReference

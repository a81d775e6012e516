import SymbolReference.Page.Render
import SymbolReference.Proofs.Page.Outline
import SymbolReference.Proofs.Page.Segments

namespace SymbolReference

open Markup

namespace Html

/-- The mark that opens a location line. -/
def locationMark : List Char :=
  "p class=\"info\"".toList

/-- The texts of the location lines among the marks of a text: each line goes on to the closing mark
of its paragraph. -/
def locationTextsIn : List Segment → List (List Char)
  | [] => []
  | segment :: others =>
    if segment.mark = locationMark then
      (segment.data ++
          (others.takeWhile fun inner => inner.mark ≠ "/p".toList).flatMap Segment.data) ::
        locationTextsIn others
    else locationTextsIn others

/-- The texts of the location lines of an HTML text. -/
def locationTexts (s : List Char) : List (List Char) :=
  locationTextsIn (dissect s).segments

/-- Pieces of markup add some location lines to those of whatever stands after them. -/
def ShowsLocations (pieces : List Markup) (texts : List (List Char)) : Prop :=
  ∀ after : Dissection, locationTextsIn (dissectPieces pieces after).segments =
    texts ++ locationTextsIn after.segments

theorem locationTextsIn_cons {mark : List Char} (h : mark ≠ locationMark) (data : List Char)
    (others : List Segment) : locationTextsIn (⟨mark, data⟩ :: others) = locationTextsIn others :=
  if_neg h

theorem ne_locationMark {mark : List Char} (h : (mark.head? == some 'p') = false) :
    mark ≠ locationMark := by
  rintro rfl
  exact absurd h (by decide)

theorem ShowsLocations.nil : ShowsLocations [] [] := fun _ => rfl

theorem showsLocations_text (data : List Char) : ShowsLocations [text data] [] := fun _ => rfl

theorem ShowsLocations.append {pieces others : List Markup} {texts later : List (List Char)}
    (h : ShowsLocations pieces texts) (hothers : ShowsLocations others later) :
    ShowsLocations (pieces ++ others) (texts ++ later) := by
  intro after
  rw [dissectPieces_append, h, hothers, List.append_assoc]

theorem ShowsLocations.element {name : String} {attributes : List (String × List Char)}
    (hmark : name.toList ++ writeAttributes attributes ≠ locationMark) {content : List Markup}
    {texts : List (List Char)} (h : ShowsLocations content texts) :
    ShowsLocations [element name attributes content] texts := by
  intro after
  have hclosing : '/' :: name.toList ≠ locationMark := ne_locationMark rfl
  have hinner := h ⟨[], ⟨'/' :: name.toList, after.leading⟩ :: after.segments⟩
  rw [locationTextsIn_cons hclosing] at hinner
  rw [dissectPieces, dissectPieces, dissectPiece, locationTextsIn_cons hmark]
  exact hinner

theorem ShowsLocations.line {piece : Markup} {texts : List (List Char)}
    (h : ShowsLocations [piece] texts) : ShowsLocations (onLine piece) texts := by
  have hline := h.append (showsLocations_text ['\n'])
  rwa [List.append_nil] at hline

theorem ShowsLocations.around {name : String} {attributes : List (String × List Char)}
    (hmark : name.toList ++ writeAttributes attributes ≠ locationMark) {content : List Markup}
    {texts : List (List Char)} (h : ShowsLocations content texts) :
    ShowsLocations (onLine (Markup.element name attributes (newline :: content))) texts :=
  (ShowsLocations.element hmark ((showsLocations_text ['\n']).append h)).line

theorem showsLocations_flatMap {α : Type} {pieces : α → List Markup}
    {texts : α → List (List Char)} (h : ∀ x, ShowsLocations (pieces x) (texts x)) (xs : List α) :
    ShowsLocations (xs.flatMap pieces) (xs.flatMap texts) := by
  induction xs with
  | nil => exact ShowsLocations.nil
  | cons x xs ih => exact (h x).append ih

theorem locationTexts_writeAll {pieces : List Markup} {texts : List (List Char)}
    (hnamed : wellNamedAll pieces = true) (h : ShowsLocations pieces texts) :
    locationTexts (writeAll pieces) = texts := by
  rw [locationTexts, dissect_writeAll hnamed, h]
  exact List.append_nil texts

/-- What HTML shows of a location: its text, if it has one, and a colon behind a file without
lines. -/
def shownTexts (location : Option Location) : List (List Char) :=
  if formatLocation location = [] then []
  else if (location.bind Location.lineRange?).isSome then [formatLocation location]
  else [formatLocation location ++ [':', ' ']]

theorem toList_ne_nil_of_file? {l : Location} {file : String} (h : l.file? = some file) :
    file.toList ≠ [] := by
  rw [Location.file?, Option.filter_eq_some_iff] at h
  intro hnil
  rw [String.toList_eq_nil_iff.mp hnil] at h
  exact absurd h.2 (by decide)

theorem showsLocations_spans (file lines : List Char) :
    ShowsLocations (onLine (classed "p" "info" [classed "span" "filename" [text file]])) [file] ∧
      ShowsLocations (onLine (classed "p" "info" [classed "span" "filename" [text file],
        classed "span" "lines" [text lines]])) [file ++ lines] := by
  constructor
  · intro after
    change ([] ++ ((file ++ []) ++ ([] ++ []))) :: locationTextsIn after.segments = _
    simp
  · intro after
    change ([] ++ ((file ++ []) ++ ([] ++ ((lines ++ []) ++ ([] ++ []))))) ::
      locationTextsIn after.segments = _
    simp

theorem showsLocations_locationLine (location : Option Location) :
    ShowsLocations (locationLine location) (shownTexts location) := by
  rcases location with _ | l
  · exact ShowsLocations.nil
  · rcases hfile : l.file? with _ | file
    · simp only [locationLine, shownTexts, formatLocation, hfile, if_pos]
      exact ShowsLocations.nil
    · have hne := toList_ne_nil_of_file? hfile
      rcases hrange : l.lineRange? with _ | range
      · simp only [locationLine, shownTexts, formatLocation, hfile, hrange, hne, Option.bind_some,
          Option.isSome_none, Bool.false_eq_true, if_false]
        exact (showsLocations_spans (file.toList ++ [':', ' ']) []).1
      · simp only [locationLine, shownTexts, formatLocation, hfile, hrange, hne, Option.bind_some,
          Option.isSome_some, if_true, List.append_eq_nil_iff, false_and, if_false]
        exact (showsLocations_spans (file.toList ++ [':', ' ']) (formatLines range)).2

theorem showsLocations_descriptionLines (description : String) :
    ShowsLocations (descriptionLines description) [] := by
  unfold descriptionLines
  split
  · exact ShowsLocations.nil
  · have hline : ∀ name data, String.toList name ++ writeAttributes [("class", "comment".toList)] ≠
        locationMark → ShowsLocations (onLine (classed name "comment" [text data])) [] :=
      fun _ data hmark => (ShowsLocations.element hmark (showsLocations_text data)).line
    exact (hline "p" _ (by decide)).append (hline "pre" _ (by decide))

theorem showsLocations_tagLine (tag : Tag) : ShowsLocations (tagLine tag) [] := by
  have hcell : ∀ name data, String.toList name ++ writeAttributes [] ≠ locationMark →
      ShowsLocations [element name [] [text data]] [] :=
    fun _ data hmark => ShowsLocations.element hmark (showsLocations_text data)
  exact (hcell "dt" _ (by decide)).append
    ((hcell "dd" _ (by decide)).append (showsLocations_text ['\n']))

theorem showsLocations_tagLines (tags : List Tag) : ShowsLocations (tagLines tags) [] := by
  unfold tagLines
  split
  · exact ShowsLocations.nil
  · have htags := showsLocations_flatMap showsLocations_tagLine tags
    rw [List.flatMap_eq_nil_iff.mpr fun _ _ => rfl] at htags
    exact htags.around (by decide)

theorem showsLocations_heading (data : List Char) :
    ShowsLocations (onLine (element "h2" [] [text data])) [] :=
  (ShowsLocations.element (by decide) (showsLocations_text data)).line

theorem showsLocations_block (cls name : String) {lines : List Markup} {texts : List (List Char)}
    (h : ShowsLocations lines texts) : ShowsLocations (block cls name lines) texts :=
  h.around (ne_locationMark rfl)

theorem showsLocations_symbolBlock (options : PageOptions) (m : Model) :
    ShowsLocations (symbolBlock options m) (shownTexts (shownLocation options m)) := by
  have hdata := ((showsLocations_heading (m.kind.label.toList ++ ' ' :: m.signature)).append
    (showsLocations_descriptionLines m.comment.description)).append
    (showsLocations_tagLines (shownTags options m))
  exact showsLocations_block _ _ (hdata.append (showsLocations_locationLine _))

theorem showsLocations_constantBlock (m : Model) : ShowsLocations (constantBlock m) [] :=
  showsLocations_block _ _ (showsLocations_heading m.definition)

theorem showsLocations_classBlock (options : PageOptions) (m : Model) :
    ShowsLocations (classBlock options m)
      ((m :: m.methods).flatMap fun n => shownTexts (shownLocation options n)) := by
  have hmethods : ShowsLocations (onLine (classed "div" "methods"
      (newline :: m.methods.flatMap (symbolBlock options)))) _ :=
    (showsLocations_flatMap (showsLocations_symbolBlock options) m.methods).around (by decide)
  exact ((showsLocations_symbolBlock options m).append hmethods).around (by decide)

theorem showsLocations_group (cls : String)
    (hmark : "div".toList ++ writeAttributes [("class", cls.toList)] ≠ locationMark)
    {blockOf : Model → List Markup} {texts : Model → List (List Char)}
    (h : ∀ m, ShowsLocations (blockOf m) (texts m)) (models : List Model) :
    ShowsLocations (group cls models blockOf) (models.flatMap texts) := by
  unfold group
  split
  · rename_i hempty
    rw [List.isEmpty_iff.mp hempty]
    exact ShowsLocations.nil
  · exact (showsLocations_flatMap h models).around hmark

theorem showsLocations_searchLine : ShowsLocations searchLine [] := fun _ => rfl

theorem showsLocations_scriptLines (script : Option String) :
    ShowsLocations (scriptLines script) [] := by
  unfold scriptLines
  split
  · exact ShowsLocations.nil
  · split
    · exact ShowsLocations.nil
    · rename_i source _
      have hlink : ShowsLocations [element "a" [("href", ['#']),
          ("onclick", "symrefOpen(); return false;".toList)] [label "[Reference]"]] [] :=
        ShowsLocations.element (by decide) (showsLocations_text _)
      have hscript : ShowsLocations [element "script" [("src", source.toList)] []] [] :=
        ShowsLocations.element (ne_locationMark rfl) ShowsLocations.nil
      exact (ShowsLocations.element (by decide) hlink).line.append hscript.line

/-- The models that pages show in blocks of their own: functions, and each class before its
methods. -/
def blockModels (d : Document) : List Model :=
  d.functions ++ d.classes.flatMap fun c => c :: c.methods

theorem showsLocations_page (options : PageOptions) (d : Document) :
    ShowsLocations (page options d)
      ((blockModels d).flatMap fun m => shownTexts (shownLocation options m)) := by
  have hsearch : ShowsLocations (if options.searchable then searchLine else []) [] := by
    cases options.searchable with
    | false => exact ShowsLocations.nil
    | true => exact showsLocations_searchLine
  have hfunctions := showsLocations_group "functions" (by decide)
    (showsLocations_symbolBlock options) d.functions
  have hclasses := showsLocations_group "classes" (by decide)
    (showsLocations_classBlock options) d.classes
  have hconstants := showsLocations_group "constants" (by decide)
    showsLocations_constantBlock d.constants
  have hcontent := ((hsearch.append hfunctions).append hclasses).append hconstants
  have hnone : d.constants.flatMap (fun _ => ([] : List (List Char))) = [] :=
    List.flatMap_eq_nil_iff.mpr fun _ _ => rfl
  rw [hnone, List.nil_append, List.append_nil] at hcontent
  have haround : ShowsLocations
      (onLine (Markup.element "div" [("id", "symref".toList)] (pageContent options d))) _ :=
    hcontent.around (by decide)
  have hpage := haround.append (showsLocations_scriptLines options.scriptSource)
  rw [List.append_nil] at hpage
  rw [page_eq, blockModels, List.flatMap_append, List.flatMap_assoc]
  exact hpage

theorem locationTexts_symbolBlock (options : PageOptions) (m : Model) :
    locationTexts (writeAll (symbolBlock options m)) = shownTexts (shownLocation options m) :=
  locationTexts_writeAll (wellNamedAll_symbolBlock options m) (showsLocations_symbolBlock options m)

theorem locationTexts_page (options : PageOptions) (d : Document) :
    locationTexts (writeAll (page options d)) =
      (blockModels d).flatMap fun m => locationTexts (writeAll (symbolBlock options m)) := by
  rw [locationTexts_writeAll (wellNamedAll_page options d) (showsLocations_page options d)]
  simp only [locationTexts_symbolBlock]

end Html

/-- What the blocks of a symbol show of its location: none of them a line, or each of them one. The
line in Markdown holds the formatted location; the line in HTML does so exactly if the first line of
the symbol is known, and otherwise has a colon behind the file. -/
inductive LocatedAlike (options : PageOptions) (heading : String) (m : Model) : Prop where
  | unlocated
      (html : Html.locationTexts (writeAll
        (Html.symbolBlock { options with showLocations := true } m)) = [])
      (markdown : Markdown.symbolBlock { options with showLocations := true } heading m =
        Markdown.symbolBlock { options with showLocations := false } heading m)
  | located (text : List Char)
      (html : Html.locationTexts (writeAll
        (Html.symbolBlock { options with showLocations := true } m)) = [text])
      (markdown : Markdown.symbolBlock { options with showLocations := true } heading m =
        Markdown.symbolBlock { options with showLocations := false } heading m ++
          Markdown.paragraph ("*Defined in ".toList ++
            Markdown.code (formatLocation m.declaration.location) ++ ['*']))
      (text_eq_iff : text = formatLocation m.declaration.location ↔
        (m.declaration.location.bind Location.startLine).isSome = true)
      (text_cases : text = formatLocation m.declaration.location ∨
        text = formatLocation m.declaration.location ++ [':', ' '])

theorem isSome_lineRange? (location : Option Location) :
    (location.bind Location.lineRange?).isSome = (location.bind Location.startLine).isSome := by
  rcases location with _ | l
  · rfl
  · exact Option.isSome_map

theorem Markdown.symbolBlock_showLocations (options : PageOptions) (heading : String) (m : Model) :
    symbolBlock { options with showLocations := true } heading m =
      symbolBlock { options with showLocations := false } heading m ++
        locationLine m.declaration.location := by
  have hhidden : locationLine none = [] := rfl
  simp only [symbolBlock, shownLocation, if_true, Bool.false_eq_true, if_false, hhidden,
    List.append_nil]
  rfl

theorem locatedAlike (options : PageOptions) (heading : String) (m : Model) :
    LocatedAlike options heading m := by
  have hmarkdown := Markdown.symbolBlock_showLocations options heading m
  have hhtml : Html.locationTexts (writeAll
      (Html.symbolBlock { options with showLocations := true } m)) =
        Html.shownTexts m.declaration.location :=
    Html.locationTexts_symbolBlock _ m
  by_cases hnone : formatLocation m.declaration.location = []
  · rw [Html.shownTexts, if_pos hnone] at hhtml
    rw [Markdown.locationLine, hnone, List.isEmpty_nil, if_pos rfl, List.append_nil] at hmarkdown
    exact LocatedAlike.unlocated hhtml hmarkdown
  · rw [Html.shownTexts, if_neg hnone] at hhtml
    rw [Markdown.locationLine, if_neg (by simpa using hnone)] at hmarkdown
    rw [isSome_lineRange?] at hhtml
    cases hknown : (m.declaration.location.bind Location.startLine).isSome with
    | true =>
        rw [if_pos hknown] at hhtml
        exact LocatedAlike.located _ hhtml hmarkdown (iff_of_true rfl hknown) (Or.inl rfl)
    | false =>
        rw [if_neg (by simp [hknown])] at hhtml
        refine LocatedAlike.located _ hhtml hmarkdown (iff_of_false ?_ (by simp [hknown]))
          (Or.inr rfl)
        simp

/-- The location lines of an HTML page are those of its blocks, and every block has one exactly if
the block of the same symbol in Markdown has one. Both show the same text exactly if the first line
of the symbol is known. Constants have no location line. -/
theorem locations_shown_alike_iff_started (options : PageOptions) (d : Document) :
    Html.locationTexts (d.render .html { options with showLocations := true }).toList =
        (Html.blockModels d).flatMap (fun m => Html.locationTexts (writeAll
          (Html.symbolBlock { options with showLocations := true } m))) ∧
      ∀ (heading : String) (m : Model), LocatedAlike options heading m := by
  refine ⟨?_, locatedAlike options⟩
  rw [← Html.locationTexts_page]
  exact congrArg Html.locationTexts String.toList_ofList

def unlinedFunction : Model :=
  .mk (.leaf { kind := .function, name := "f", location := some { file := some "a.py" } })
    Comment.empty []

/-- HTML shows a colon behind a file without lines, which the formatted location does not have. -/
theorem location_keeps_colon_without_lines :
    Html.locationTexts (writeAll (Html.symbolBlock {} unlinedFunction)) = ["a.py: ".toList] ∧
      formatLocation unlinedFunction.declaration.location = "a.py".toList := by
  rw [Html.locationTexts_symbolBlock]
  decide

end SymbolReference

import SymbolReference.Page.Render
import SymbolReference.Proofs.Page.Marks

namespace SymbolReference

open Markup

/-- The outline of a symbol: its kind, whether it is described, the number of its tags, and whether
its file and its first line are known. -/
structure SymbolOutline where
  kind : Kind
  described : Bool
  tags : Nat
  located : Bool
  lined : Bool
deriving Repr, DecidableEq

def Model.outline (m : Model) : SymbolOutline where
  kind := m.kind
  described := !m.comment.description.isEmpty
  tags := m.comment.tags.length
  located := (m.declaration.location.bind Location.file?).isSome
  lined := (m.declaration.location.bind Location.startLine).isSome

/-- The outline of a document: the symbols of each section, each class with its methods. Constants
differ in their data only. -/
structure DocumentOutline where
  functions : List SymbolOutline
  classes : List (SymbolOutline × List SymbolOutline)
  constants : Nat
deriving Repr, DecidableEq

def Model.classOutline (m : Model) : SymbolOutline × List SymbolOutline :=
  (m.outline, m.methods.map Model.outline)

def Document.outline (d : Document) : DocumentOutline where
  functions := d.functions.map Model.outline
  classes := d.classes.map Model.classOutline
  constants := d.constants.length

/-- The options of a page without the source of its script. -/
structure PageSwitches where
  searchable : Bool
  scripted : Bool
  showTags : Bool
  showLocations : Bool
deriving Repr, DecidableEq

/-- The switches of a page. A script without a source is not loaded. -/
def PageOptions.switches (options : PageOptions) : PageSwitches where
  searchable := options.searchable
  scripted := options.scriptSource.any fun source => !source.isEmpty
  showTags := options.showTags
  showLocations := options.showLocations

namespace Html

/-- What stands inside the page. -/
def pageContent (options : PageOptions) (d : Document) : List Markup :=
  newline :: (if options.searchable then searchLine else []) ++
    group "functions" d.functions (symbolBlock options) ++
    group "classes" d.classes (classBlock options) ++
    group "constants" d.constants constantBlock

/-- The lines after the page. -/
def scriptLines (script : Option String) : List Markup :=
  match script with
  | none => []
  | some source => if source.isEmpty then [] else trailer source

theorem page_eq (options : PageOptions) (d : Document) :
    page options d =
      onLine (element "div" [("id", "symref".toList)] (pageContent options d)) ++
        scriptLines options.scriptSource := rfl

theorem wellNamedAll_onLine_element {name : String} {attributes : List (String × List Char)}
    {content : List Markup} (hname : (plainName name && name != "input") = true)
    (hattributes : (attributes.all fun pair => plainName pair.1) = true)
    (hcontent : wellNamedAll content = true) :
    wellNamedAll (onLine (element name attributes content)) = true := by
  simp only [onLine, newline, wellNamedAll, wellNamed, hname, hattributes, hcontent, Bool.and_self]

theorem wellNamedAll_descriptionLines (description : String) :
    wellNamedAll (descriptionLines description) = true := by
  unfold descriptionLines
  split
  · rfl
  · rfl

theorem wellNamedAll_tagLines (tags : List Tag) : wellNamedAll (tagLines tags) = true := by
  unfold tagLines
  split
  · rfl
  · have htags : wellNamedAll (tags.flatMap tagLine) = true :=
      wellNamedAll_flatMap (fun _ => rfl) tags
    exact wellNamedAll_onLine_element (by decide) (by decide) htags

theorem wellNamedAll_locationLine (location : Option Location) :
    wellNamedAll (locationLine location) = true := by
  unfold locationLine
  split
  · rfl
  · split
    · rfl
    · rename_i l _ file _
      rcases l.lineRange? with _ | range
      · rfl
      · rfl

theorem wellNamedAll_block {cls name : String} {lines : List Markup}
    (h : wellNamedAll lines = true) : wellNamedAll (block cls name lines) = true := by
  have hattributes : (plainName "class" && plainName "title") = true := by decide
  exact wellNamedAll_onLine_element (by decide) (by simpa using hattributes) h

theorem wellNamedAll_symbolBlock (options : PageOptions) (m : Model) :
    wellNamedAll (symbolBlock options m) = true := by
  apply wellNamedAll_block
  rw [wellNamedAll_append, wellNamedAll_append, wellNamedAll_append,
    wellNamedAll_descriptionLines, wellNamedAll_tagLines, wellNamedAll_locationLine]
  rfl

theorem wellNamedAll_constantBlock (m : Model) : wellNamedAll (constantBlock m) = true :=
  wellNamedAll_block rfl

theorem wellNamedAll_classBlock (options : PageOptions) (m : Model) :
    wellNamedAll (classBlock options m) = true := by
  have hmethods : wellNamedAll (m.methods.flatMap (symbolBlock options)) = true :=
    wellNamedAll_flatMap (wellNamedAll_symbolBlock options) m.methods
  refine wellNamedAll_onLine_element (by decide) (by decide) ?_
  rw [wellNamedAll_append]
  refine Bool.and_eq_true_iff.mpr ⟨wellNamedAll_symbolBlock options m, ?_⟩
  exact wellNamedAll_onLine_element (by decide) (by decide) hmethods

theorem wellNamedAll_group (cls : String) (models : List Model) {blockOf : Model → List Markup}
    (h : ∀ m, wellNamedAll (blockOf m) = true) :
    wellNamedAll (group cls models blockOf) = true := by
  unfold group
  split
  · rfl
  · have hclass : plainName "class" = true := by decide
    exact wellNamedAll_onLine_element (by decide) (by simpa using hclass)
      (wellNamedAll_flatMap h models)

theorem wellNamedAll_trailer (source : String) : wellNamedAll (trailer source) = true := by
  have hsource : plainName "src" = true := by decide
  rw [trailer, wellNamedAll_append]
  refine Bool.and_eq_true_iff.mpr ⟨?_, ?_⟩
  · exact wellNamedAll_onLine_element (by decide) (by decide) (by decide)
  · exact wellNamedAll_onLine_element (by decide) (by simpa using hsource) rfl

theorem wellNamedAll_scriptLines (script : Option String) :
    wellNamedAll (scriptLines script) = true := by
  unfold scriptLines
  split
  · rfl
  · split
    · rfl
    · exact wellNamedAll_trailer _

theorem wellNamedAll_pageContent (options : PageOptions) (d : Document) :
    wellNamedAll (pageContent options d) = true := by
  have hsearch : wellNamedAll (if options.searchable then searchLine else []) = true := by
    cases options.searchable with
    | false => rfl
    | true => rfl
  rw [pageContent, wellNamedAll_append, wellNamedAll_append, wellNamedAll_append,
    wellNamedAll_group "functions" d.functions (wellNamedAll_symbolBlock options),
    wellNamedAll_group "classes" d.classes (wellNamedAll_classBlock options),
    wellNamedAll_group "constants" d.constants wellNamedAll_constantBlock]
  simpa [wellNamedAll, newline, wellNamed] using hsearch

theorem wellNamedAll_page (options : PageOptions) (d : Document) :
    wellNamedAll (page options d) = true := by
  rw [page_eq, wellNamedAll_append, wellNamedAll_scriptLines, Bool.and_true]
  exact wellNamedAll_onLine_element (by decide) (by decide) (wellNamedAll_pageContent options d)

theorem bareAll_onLine_element (name : String) {attributes others : List (String × List Char)}
    {content lines : List Markup}
    (hattributes : attributes.map blankAttribute = others.map blankAttribute)
    (hcontent : bareAll content = bareAll lines) :
    bareAll (onLine (element name attributes content)) =
      bareAll (onLine (element name others lines)) := by
  simp only [onLine, bareAll, bare, hattributes, hcontent]

theorem bareAll_descriptionLines {a b : String} (h : a.isEmpty = b.isEmpty) :
    bareAll (descriptionLines a) = bareAll (descriptionLines b) := by
  unfold descriptionLines
  rw [h]
  split
  · rfl
  · rfl

/-- What is left of a list of items, which is left out when there are none. -/
theorem bareAll_items {α β : Type} (name cls : String) {f g : α → List Markup} {outline : α → β}
    (h : ∀ x y, outline x = outline y → bareAll (f x) = bareAll (g y)) {xs ys : List α}
    (houtline : xs.map outline = ys.map outline) :
    bareAll (if xs.isEmpty then [] else onLine (classed name cls (newline :: xs.flatMap f))) =
      bareAll (if ys.isEmpty then [] else onLine (classed name cls (newline :: ys.flatMap g))) := by
  have hempty : xs.isEmpty = ys.isEmpty := by
    rw [← List.isEmpty_map (f := outline), houtline, List.isEmpty_map]
  rw [hempty]
  split
  · rfl
  · refine bareAll_onLine_element name rfl ?_
    rw [bareAll, bareAll, bareAll_flatMap_congr h houtline]

theorem map_unit_eq_of_length_eq {α : Type} {xs ys : List α} (h : xs.length = ys.length) :
    xs.map (fun _ => ()) = ys.map fun _ => () := by
  rw [List.map_const', List.map_const', h]

theorem bareAll_tagLines {a b : List Tag} (h : a.length = b.length) :
    bareAll (tagLines a) = bareAll (tagLines b) := by
  have htag : ∀ tag other : Tag, () = () → bareAll (tagLine tag) = bareAll (tagLine other) :=
    fun _ _ _ => rfl
  exact bareAll_items "dl" "tags" htag (map_unit_eq_of_length_eq h)

/-- The line of a location without its file name and its line numbers. -/
def blankLocationLine (lined : Bool) : List Markup :=
  bareAll (onLine (classed "p" "info"
    (classed "span" "filename" [text []] ::
      if lined then [classed "span" "lines" [text []]] else [])))

theorem bareAll_locationLine (location : Option Location) :
    bareAll (locationLine location) =
      if (location.bind Location.file?).isSome then
        blankLocationLine (location.bind Location.startLine).isSome
      else [] := by
  rcases location with _ | ⟨file, startLine, endLine⟩
  · rfl
  · simp only [locationLine, Option.bind_some, Location.lineRange?]
    split
    · rename_i hfile
      simp [hfile, bareAll]
    · rename_i hfile
      rcases startLine with _ | start
      · simp only [hfile]; rfl
      · simp only [hfile]; rfl

theorem bareAll_block (cls name other : String) {content lines : List Markup}
    (h : bareAll content = bareAll lines) :
    bareAll (block cls name content) = bareAll (block cls other lines) := by
  refine bareAll_onLine_element "div" rfl ?_
  rw [bareAll, bareAll, h]

theorem bareAll_symbolBlock {options others : PageOptions}
    (hoptions : options.switches = others.switches) (m n : Model) (h : m.outline = n.outline) :
    bareAll (symbolBlock options m) = bareAll (symbolBlock others n) := by
  have htags : options.showTags = others.showTags := congrArg PageSwitches.showTags hoptions
  have hlocations : options.showLocations = others.showLocations :=
    congrArg PageSwitches.showLocations hoptions
  simp only [Model.outline, SymbolOutline.mk.injEq, Bool.not_inj_iff] at h
  obtain ⟨hkind, hdescribed, hnumber, hlocated, hlined⟩ := h
  have hshownTags : (shownTags options m).length = (shownTags others n).length := by
    unfold shownTags
    rw [htags]
    split
    · exact hnumber
    · rfl
  have hshownLocation : bareAll (locationLine (shownLocation options m)) =
      bareAll (locationLine (shownLocation others n)) := by
    unfold shownLocation
    rw [hlocations]
    split
    · rw [bareAll_locationLine, bareAll_locationLine, hlocated, hlined]
    · rfl
  unfold symbolBlock
  rw [hkind]
  apply bareAll_block
  rw [bareAll_append, bareAll_append, bareAll_append, bareAll_append, bareAll_append,
    bareAll_append, bareAll_descriptionLines hdescribed, bareAll_tagLines hshownTags,
    hshownLocation]
  rfl

theorem bareAll_constantBlock (m n : Model) :
    bareAll (constantBlock m) = bareAll (constantBlock n) :=
  bareAll_block "constant" m.name n.name rfl

theorem bareAll_classBlock {options others : PageOptions}
    (hoptions : options.switches = others.switches) (m n : Model)
    (h : m.classOutline = n.classOutline) :
    bareAll (classBlock options m) = bareAll (classBlock others n) := by
  obtain ⟨hclass, hmethods⟩ := Prod.mk.inj h
  have hblocks := bareAll_flatMap_congr (bareAll_symbolBlock hoptions) hmethods
  refine bareAll_onLine_element "div" rfl ?_
  rw [bareAll_append, bareAll_append, bareAll, bareAll, bareAll_symbolBlock hoptions m n hclass]
  congr 1
  refine bareAll_onLine_element "div" rfl ?_
  rw [bareAll, bareAll, hblocks]

theorem bareAll_scriptLines (script : Option String) :
    bareAll (scriptLines script) =
      if script.any (fun source => !source.isEmpty) then bareAll (trailer "") else [] := by
  rcases script with _ | source
  · rfl
  · rcases hsource : source.isEmpty with _ | _
    · simp only [scriptLines, Option.any_some, hsource]
      rfl
    · simp only [scriptLines, Option.any_some, hsource]
      rfl

theorem bareAll_pageContent {options others : PageOptions} {d e : Document}
    (hoptions : options.switches = others.switches) (h : d.outline = e.outline) :
    bareAll (pageContent options d) = bareAll (pageContent others e) := by
  have hsearchable : options.searchable = others.searchable :=
    congrArg PageSwitches.searchable hoptions
  simp only [Document.outline, DocumentOutline.mk.injEq] at h
  obtain ⟨hfunctions, hclasses, hconstants⟩ := h
  have hfunctionGroup : bareAll (group "functions" d.functions (symbolBlock options)) =
      bareAll (group "functions" e.functions (symbolBlock others)) :=
    bareAll_items "div" "functions" (bareAll_symbolBlock hoptions) hfunctions
  have hclassGroup : bareAll (group "classes" d.classes (classBlock options)) =
      bareAll (group "classes" e.classes (classBlock others)) :=
    bareAll_items "div" "classes" (bareAll_classBlock hoptions) hclasses
  have hconstantGroup : bareAll (group "constants" d.constants constantBlock) =
      bareAll (group "constants" e.constants constantBlock) :=
    bareAll_items "div" "constants" (fun m n _ => bareAll_constantBlock m n)
      (map_unit_eq_of_length_eq hconstants)
  simp only [pageContent, bareAll_append, hfunctionGroup, hclassGroup, hconstantGroup, hsearchable]

/-- What is left of the page without its data depends on the outline and on the switches only. -/
theorem bareAll_page {options others : PageOptions} {d e : Document}
    (hoptions : options.switches = others.switches) (h : d.outline = e.outline) :
    bareAll (page options d) = bareAll (page others e) := by
  have hscripted : (options.scriptSource.any fun source => !source.isEmpty) =
      others.scriptSource.any fun source => !source.isEmpty :=
    congrArg PageSwitches.scripted hoptions
  rw [page_eq, page_eq, bareAll_append, bareAll_append,
    bareAll_onLine_element "div" rfl (bareAll_pageContent hoptions h), bareAll_scriptLines,
    bareAll_scriptLines, hscripted]

end Html

/-- The marks of the HTML page depend on the outline of the document and on the switches only and
are properly nested, and no data shows a special character outside of a reference. -/
theorem html_marks_unaltered_by_data (options : PageOptions) (d : Document) :
    (∀ others e, others.switches = options.switches → e.outline = d.outline →
      (marks (Document.render .html others e).toList).map blankMark =
        (marks (Document.render .html options d).toList).map blankMark) ∧
    nestedIn [] (marks (Document.render .html options d).toList) = true ∧
    (∀ rest, '&' :: rest <:+ (Document.render .html options d).toList →
      ∃ reference ∈ references, reference <+: '&' :: rest) ∧
    '\'' ∉ (Document.render .html options d).toList := by
  have hwritten : ∀ others e,
      (Document.render .html others e).toList = writeAll (Html.page others e) := fun _ _ =>
    String.toList_ofList
  have hnamed := Html.wellNamedAll_page options d
  have hharmless := harmless_writeAll (Html.page options d) hnamed
  rw [hwritten options d]
  refine ⟨fun others e hoptions houtline => ?_, nestedIn_marks_writeAll hnamed,
    hharmless.referring, hharmless.unquoted⟩
  rw [hwritten, map_blankMark_marks_writeAll (Html.wellNamedAll_page others e),
    map_blankMark_marks_writeAll hnamed, Html.bareAll_page hoptions houtline]

/-- A document of one function and of one class with one method. -/
def sampleDocument (name description tag file : String) : Document where
  functions := [.mk (.leaf (declared .function)) comment []]
  classes := [.mk (.leaf (declared .klass)) comment [.mk (.leaf (declared .method)) comment []]]
where
  /-- What is declared about each symbol. -/
  declared (kind : Kind) : Declaration :=
    { kind, name, owner := some name,
      parameters := [⟨name, false, true, true, .str file⟩],
      location := some { file := some file, startLine := some 3 } }
  /-- The comment of each symbol. -/
  comment : Comment :=
    { description, tags := [{ name := tag, body := description }] }

theorem html_marks_unaltered_by_sample :
    (marks (Document.render .html { scriptSource := some "\"><script>'&" }
      (sampleDocument "</h2><h2 title=\"" "<b>'&amp;'</b>" "<i" "a\" src='b'>.py")).toList).map
        blankMark =
      (marks (Document.render .html { scriptSource := some "page.js" }
        (sampleDocument "add" "Adds." "see" "sums.py")).toList).map blankMark :=
  (html_marks_unaltered_by_data { scriptSource := some "page.js" }
    (sampleDocument "add" "Adds." "see" "sums.py")).1 _ _ (by decide) (by decide)

end SymbolReference

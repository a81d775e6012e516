import SymbolReference.Page.Render
import SymbolReference.Proofs.Page.Titles

namespace SymbolReference

mutual

def Symbol.withoutLocations : Symbol → Symbol
  | .mk d none => .mk { d with location := none } none
  | .mk d (some entries) =>
    .mk { d with location := none } (some (Entry.allWithoutLocations entries))

def Entry.withoutLocations : Entry → Entry
  | .symbol s => .symbol s.withoutLocations
  | .other v => .other v

def Entry.allWithoutLocations : List Entry → List Entry
  | [] => []
  | entry :: others => entry.withoutLocations :: Entry.allWithoutLocations others

end

theorem Symbol.declaration_withoutLocations (s : Symbol) :
    s.withoutLocations.declaration = { s.declaration with location := none } := by
  rcases s with ⟨d, _ | entries⟩
  · rfl
  · rfl

namespace Model

/-- A model with its symbol and its comment replaced, and likewise in its methods. -/
def mapParts (onSymbol : Symbol → Symbol) (onComment : Comment → Comment) : Model → Model
  | mk s c methods => mk (onSymbol s) (onComment c) (mapAll methods)
where
  mapAll : List Model → List Model
    | [] => []
    | m :: others => mapParts onSymbol onComment m :: mapAll others

theorem methods_mapParts (onSymbol : Symbol → Symbol) (onComment : Comment → Comment) (m : Model) :
    (m.mapParts onSymbol onComment).methods = m.methods.map (mapParts onSymbol onComment) := by
  rcases m with ⟨s, c, methods⟩
  change mapParts.mapAll onSymbol onComment methods = methods.map _
  induction methods with
  | nil => rfl
  | cons m others ih => rw [mapParts.mapAll, ih, List.map_cons]

def withoutTags : Model → Model :=
  mapParts id fun c => { c with tags := [] }

def withoutLocations : Model → Model :=
  mapParts Symbol.withoutLocations id

theorem declaration_withoutLocations (m : Model) :
    m.withoutLocations.declaration = { m.declaration with location := none } := by
  rcases m with ⟨s, c, methods⟩
  exact s.declaration_withoutLocations

end Model

namespace Document

def mapModels (f : Model → Model) (d : Document) : Document :=
  { d with
    functions := d.functions.map f
    classes := d.classes.map f
    constants := d.constants.map f }

/-- The document with the tags of all comments removed. -/
def withoutTags : Document → Document :=
  mapModels Model.withoutTags

/-- The document with the locations of all symbols removed. -/
def withoutLocations : Document → Document :=
  mapModels Model.withoutLocations

end Document

/-- Whether a page under the switches `a` shows of every model what a page under the switches `b`
shows of its image. -/
structure ShownAs (a b : PageOptions) (f : Model → Model) : Prop where
  searchable : b.searchable = a.searchable
  scriptSource : b.scriptSource = a.scriptSource
  kind : ∀ m, (f m).kind = m.kind
  name : ∀ m, (f m).name = m.name
  parameters : ∀ m, (f m).declaration.parameters = m.declaration.parameters
  value : ∀ m, (f m).declaration.value = m.declaration.value
  description : ∀ m, (f m).comment.description = m.comment.description
  tags : ∀ m, shownTags b (f m) = shownTags a m
  location : ∀ m, shownLocation b (f m) = shownLocation a m
  methods : ∀ m, (f m).methods = m.methods.map f

namespace ShownAs

variable {a b : PageOptions} {f : Model → Model}

theorem signature (h : ShownAs a b f) (m : Model) : (f m).signature = m.signature := by
  simp only [Model.signature, h.kind, h.name, h.parameters]

theorem definition (h : ShownAs a b f) (m : Model) : (f m).definition = m.definition := by
  change "const ".toList ++ (f m).name.toList ++ " = ".toList ++ formatValue _ = _
  rw [h.name, h.value]
  rfl

theorem html_symbolBlock (h : ShownAs a b f) (m : Model) :
    Html.symbolBlock b (f m) = Html.symbolBlock a m := by
  rw [Html.symbolBlock, h.kind, h.name, h.signature, h.description, h.tags, h.location]
  rfl

theorem html_classBlock (h : ShownAs a b f) (m : Model) :
    Html.classBlock b (f m) = Html.classBlock a m := by
  simp only [Html.classBlock, h.html_symbolBlock, h.methods, List.flatMap_map]

theorem html_constantBlock (h : ShownAs a b f) (m : Model) :
    Html.constantBlock (f m) = Html.constantBlock m := by
  simp only [Html.constantBlock, h.name, h.definition]

theorem html_group {blockOf blockOf' : Model → List Markup} (h : ∀ m, blockOf' (f m) = blockOf m)
    (cls : String) (models : List Model) :
    Html.group cls (models.map f) blockOf' = Html.group cls models blockOf := by
  simp only [Html.group, List.isEmpty_map, List.flatMap_map, h]

theorem markdown_symbolBlock (h : ShownAs a b f) (heading : String) (m : Model) :
    Markdown.symbolBlock b heading (f m) = Markdown.symbolBlock a heading m := by
  simp only [Markdown.symbolBlock, h.kind, h.signature, h.description, h.tags, h.location]

theorem markdown_classBlock (h : ShownAs a b f) (m : Model) :
    Markdown.classBlock b (f m) = Markdown.classBlock a m := by
  simp only [Markdown.classBlock, h.markdown_symbolBlock, h.methods, List.flatMap_map]

theorem markdown_constantLine (h : ShownAs a b f) (m : Model) :
    Markdown.constantLine (f m) = Markdown.constantLine m := by
  simp only [Markdown.constantLine, h.definition]

theorem markdown_group {blockOf blockOf' : Model → List Char}
    (h : ∀ m, blockOf' (f m) = blockOf m) (title : String) (models : List Model) :
    Markdown.group title (models.map f) blockOf' = Markdown.group title models blockOf := by
  simp only [Markdown.group, List.isEmpty_map, List.flatMap_map, h]

theorem render (h : ShownAs a b f) (format : OutputFormat) (d : Document) :
    (d.mapModels f).render format b = d.render format a := by
  cases format with
  | html =>
      simp only [Document.render, Html.render, Html.page, Document.mapModels, h.searchable,
        h.scriptSource, html_group h.html_symbolBlock, html_group h.html_classBlock,
        html_group h.html_constantBlock]
  | markdown =>
      simp only [Document.render, Markdown.render, Document.mapModels,
        markdown_group (h.markdown_symbolBlock _), markdown_group h.markdown_classBlock,
        markdown_group h.markdown_constantLine]

theorem withoutTags (options : PageOptions) :
    ShownAs { options with showTags := false } { options with showTags := true }
      Model.withoutTags where
  searchable := rfl
  scriptSource := rfl
  kind := by rintro ⟨s, c, methods⟩; rfl
  name := by rintro ⟨s, c, methods⟩; rfl
  parameters := by rintro ⟨s, c, methods⟩; rfl
  value := by rintro ⟨s, c, methods⟩; rfl
  description := by rintro ⟨s, c, methods⟩; rfl
  tags := by rintro ⟨s, c, methods⟩; rfl
  location := by rintro ⟨s, c, methods⟩; rfl
  methods := Model.methods_mapParts _ _

theorem withoutLocations (options : PageOptions) :
    ShownAs { options with showLocations := false } { options with showLocations := true }
      Model.withoutLocations where
  searchable := rfl
  scriptSource := rfl
  kind m := by rw [Model.kind, Symbol.kind, ← Model.declaration, m.declaration_withoutLocations]; rfl
  name m := by rw [Model.name, Symbol.name, ← Model.declaration, m.declaration_withoutLocations]; rfl
  parameters m := by rw [m.declaration_withoutLocations]
  value m := by rw [m.declaration_withoutLocations]
  description := by rintro ⟨s, c, methods⟩; rfl
  tags := by rintro ⟨s, c, methods⟩; rfl
  location m := by rw [shownLocation, m.declaration_withoutLocations]; rfl
  methods := Model.methods_mapParts _ _

end ShownAs

namespace Html

open Markup

/-- The line that opens a page. -/
def openingText : String := "<div id=\"symref\">\n"

/-- The search line as it is written. -/
def searchText : String :=
  "Search: <input type=\"text\" class=\"search\" onkeyup=\"search(this.value);\">\n"

/-- The lines after a page as they are written. Without a script there are none. -/
def trailerText (source : Option String) : String :=
  match source with
  | none => ""
  | some source =>
    if source = "" then ""
    else
      "<div class=\"symref-trailer\"><a href=\"#\" onclick=\"symrefOpen(); return false;\">" ++
        "[Reference]</a></div>\n" ++ "<script src=\"" ++ String.ofList (escape source.toList) ++
        "\"></script>\n"

/-- What stands between the search line and the trailer. -/
def bodyText (options : PageOptions) (d : Document) : String :=
  String.ofList (writeAll (group "functions" d.functions (symbolBlock options) ++
    group "classes" d.classes (classBlock options) ++
    group "constants" d.constants constantBlock)) ++ "</div>\n"

theorem ofList_writeAll_searchLine : String.ofList (writeAll searchLine) = searchText := by
  decide

theorem writeAll_script (source : String) :
    writeAll (onLine (element "script" [("src", source.toList)] [])) =
      "<script src=\"".toList ++ escape source.toList ++ "\"></script>\n".toList := by
  have hopening : opening "script" [("src", source.toList)] =
      "<script src=\"".toList ++ escape source.toList ++ "\">".toList := by
    simp [opening, writeAttributes]
  rw [onLine, writeAll, write, hopening, List.append_assoc, List.append_assoc, List.append_assoc,
    List.append_assoc]
  rfl

theorem ofList_writeAll_scriptLines (source : Option String) :
    String.ofList (writeAll (scriptLines source)) = trailerText source := by
  rcases source with _ | source
  · rfl
  · by_cases hsource : source = ""
    · rw [hsource]
      rfl
    · have hreference : String.ofList (writeAll (onLine (classed "div" "symref-trailer"
          [element "a" [("href", ['#']), ("onclick", "symrefOpen(); return false;".toList)]
            [label "[Reference]"]]))) =
          "<div class=\"symref-trailer\"><a href=\"#\" onclick=\"symrefOpen(); return false;\">" ++
            "[Reference]</a></div>\n" := by
        decide
      have hempty : source.isEmpty = false := by simpa using hsource
      simp only [scriptLines, hempty, Bool.false_eq_true, if_false, trailer, writeAll_append,
        String.ofList_append, hreference, writeAll_script, String.ofList_toList, trailerText,
        hsource, String.append_assoc]

/-- The switches of the search line and of the trailer change nothing between them. -/
theorem render_eq_around_body (options : PageOptions) (d : Document) :
    d.render .html options =
      openingText ++ (if options.searchable then searchText else "") ++ bodyText options d ++
        trailerText options.scriptSource := by
  have hsearch : String.ofList (writeAll (if options.searchable then searchLine else [])) =
      if options.searchable then searchText else "" := by
    cases options.searchable with
    | false => rfl
    | true => exact ofList_writeAll_searchLine
  have hopening : String.ofList (opening "div" [("id", "symref".toList)] ++ ['\n']) =
      openingText := by
    decide
  have hclosing : String.ofList (closing "div" ++ ['\n']) = "</div>\n" := by
    decide
  have hbreak : write newline = ['\n'] := by
    decide
  rw [← hsearch, ← ofList_writeAll_scriptLines, bodyText, ← hopening, ← hclosing]
  simp only [← String.ofList_append, Document.render, render, page_eq, pageContent,
    writeAll_append, onLine, writeAll, write.eq_2, hbreak, List.append_assoc, List.nil_append]

end Html

/-- The switches of a page are pure formatting. Leaving tags or locations out is showing the document
without them, in every format. In HTML the search line stands after the line that opens the page and
the trailer at its end, and the text around them does not depend on them; Markdown has neither. -/
theorem render_switches (d : Document) (options : PageOptions) :
    (∀ format, d.render format { options with showTags := false } =
      d.withoutTags.render format { options with showTags := true }) ∧
    (∀ format, d.render format { options with showLocations := false } =
      d.withoutLocations.render format { options with showLocations := true }) ∧
    (∃ body : String, ∀ searchable scriptSource,
      d.render .html { options with searchable, scriptSource } =
        Html.openingText ++ (if searchable then Html.searchText else "") ++ body ++
          Html.trailerText scriptSource) ∧
    (∀ searchable scriptSource,
      d.render .markdown { options with searchable, scriptSource } = d.render .markdown options) := by
  refine ⟨fun format => ?_, fun format => ?_, ⟨Html.bodyText options d, ?_⟩, ?_⟩
  · exact ((ShownAs.withoutTags options).render format d).symm
  · exact ((ShownAs.withoutLocations options).render format d).symm
  · intro searchable scriptSource
    exact Html.render_eq_around_body { options with searchable, scriptSource } d
  · intro searchable scriptSource
    rfl

end SymbolReference

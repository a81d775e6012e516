import SymbolReference.Page.Format
import SymbolReference.Page.Markup
import SymbolReference.Text.Lower

namespace SymbolReference.Html

open Markup

/-- A text of fixed wording. -/
def label (s : String) : Markup := text s.toList

/-- An element with one class. -/
def classed (name cls : String) (content : List Markup) : Markup :=
  element name [("class", cls.toList)] content

def descriptionLines (description : String) : List Markup :=
  if description.isEmpty then []
  else
    onLine (classed "p" "comment" [label "Comment:"]) ++
      onLine (classed "pre" "comment" [text description.toList])

def tagLine (tag : Tag) : List Markup :=
  [element "dt" [] [text ('@' :: tag.name.toList)], element "dd" [] [text tag.body.toList], newline]

def tagLines (tags : List Tag) : List Markup :=
  if tags.isEmpty then [] else onLine (classed "dl" "tags" (newline :: tags.flatMap tagLine))

def locationLine (location : Option Location) : List Markup :=
  match location with
  | none => []
  | some l =>
    match l.file? with
    | none => []
    | some file =>
      let lines :=
        match l.lineRange? with
        | none => []
        | some range => [classed "span" "lines" [text (formatLines range)]]
      onLine (classed "p" "info"
        (classed "span" "filename" [text (file.toList ++ [':', ' '])] :: lines))

/-- The block of a symbol or constant: its lines inside an element that carries the lower-case
name. -/
def block (cls name : String) (lines : List Markup) : List Markup :=
  onLine (element "div" [("class", cls.toList), ("title", Text.lower name.toList)]
    (newline :: lines))

/-- The block of a function, class or method. -/
def symbolBlock (options : PageOptions) (m : Model) : List Markup :=
  block m.kind.label m.name
    (onLine (element "h2" [] [text (m.kind.label.toList ++ ' ' :: m.signature)]) ++
      descriptionLines m.comment.description ++ tagLines (shownTags options m) ++
      locationLine (shownLocation options m))

def constantBlock (m : Model) : List Markup :=
  block "constant" m.name (onLine (element "h2" [] [text m.definition]))

def classBlock (options : PageOptions) (m : Model) : List Markup :=
  onLine (classed "div" "classWrapper"
    (newline :: symbolBlock options m ++
      onLine (classed "div" "methods" (newline :: m.methods.flatMap (symbolBlock options)))))

/-- A section of the page, left out when it has no symbols. -/
def group (cls : String) (models : List Model) (blockOf : Model → List Markup) : List Markup :=
  if models.isEmpty then [] else onLine (classed "div" cls (newline :: models.flatMap blockOf))

def searchLine : List Markup :=
  [label "Search: ",
    void "input" [("type", "text".toList), ("class", "search".toList),
      ("onkeyup", "search(this.value);".toList)],
    newline]

/-- The lines after the page that open the reference from a script. -/
def trailer (source : String) : List Markup :=
  onLine (classed "div" "symref-trailer"
      [element "a" [("href", ['#']), ("onclick", "symrefOpen(); return false;".toList)]
        [label "[Reference]"]]) ++
    onLine (element "script" [("src", source.toList)] [])

def page (options : PageOptions) (d : Document) : List Markup :=
  onLine (element "div" [("id", "symref".toList)]
      (newline :: (if options.searchable then searchLine else []) ++
        group "functions" d.functions (symbolBlock options) ++
        group "classes" d.classes (classBlock options) ++
        group "constants" d.constants constantBlock)) ++
    (match options.scriptSource with
      | none => []
      | some source => if source.isEmpty then [] else trailer source)

def render (options : PageOptions) (d : Document) : List Char :=
  writeAll (page options d)

end SymbolReference.Html

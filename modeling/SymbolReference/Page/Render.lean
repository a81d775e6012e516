import SymbolReference.Page.Html
import SymbolReference.Page.Markdown

namespace SymbolReference

/-- The formats in which a document can be rendered. -/
inductive OutputFormat where
  | html
  | markdown
deriving Repr, DecidableEq

namespace OutputFormat

def name : OutputFormat → String
  | html => "html"
  | markdown => "markdown"

def ofName? : String → Option OutputFormat
  | "html" => some html
  | "markdown" => some markdown
  | _ => none

theorem ofName?_name (format : OutputFormat) : ofName? format.name = some format := by
  cases format <;> rfl

def renderer : OutputFormat → String
  | html => "HTMLRenderer"
  | markdown => "MarkdownRenderer"

def template : OutputFormat → String
  | html => "reference_template.html"
  | markdown => "reference_template.md"

def resolve (name : String) : Except Fault OutputFormat :=
  match ofName? name with
  | some format => .ok format
  | none =>
    .error (Fault.invalidConfig "output_format" (.str name)
      (some ("Unknown output format " ++ Text.quote name ++
        "; expected one of ['html', 'markdown']")))

end OutputFormat

def Document.render (format : OutputFormat) (options : PageOptions) (d : Document) : String :=
  match format with
  | .html => String.ofList (Html.render options d)
  | .markdown => String.ofList (Markdown.render options d)

def notBuilt (format : OutputFormat) : Fault :=
  Fault.of .documentNotBuilt "render() called before a Document was built"
    [("renderer", .str format.renderer)]

def notADocument (format : OutputFormat) (v : Value) : Fault :=
  Fault.of .documentNotBuilt ("render() expects a Document, got " ++ v.typeName)
    [("renderer", .str format.renderer)]

/-- The text of a document that may be missing, unless a number that it shows has too many digits to
be written. -/
def renderDocument? (format : OutputFormat) (options : PageOptions) :
    Option Document → Except Failure String
  | none => .error (.fault (notBuilt format))
  | some d =>
    if d.isWritable options then .ok (d.render format options) else .error (.number .unwritable)

end SymbolReference

import SymbolReference.Page.Format

namespace SymbolReference.Markdown

def paragraph (line : List Char) : List Char :=
  line ++ ['\n', '\n']

/-- A text in code marks. -/
def code (s : List Char) : List Char :=
  '\x60' :: s ++ ['\x60']

def descriptionLines (description : String) : List Char :=
  if description.isEmpty then [] else paragraph description.toList

def tagLine (tag : Tag) : List Char :=
  "- ".toList ++ code ('@' :: tag.name.toList) ++ ' ' :: tag.body.toList ++ ['\n']

def tagLines (tags : List Tag) : List Char :=
  if tags.isEmpty then [] else tags.flatMap tagLine ++ ['\n']

def locationLine (location : Option Location) : List Char :=
  let shown := formatLocation location
  if shown.isEmpty then []
  else paragraph ("*Defined in ".toList ++ code shown ++ ['*'])

/-- The block of a function, class or method under a heading mark. -/
def symbolBlock (options : PageOptions) (heading : String) (m : Model) : List Char :=
  paragraph (heading.toList ++ ' ' :: m.kind.label.toList ++ ' ' :: code m.signature) ++
    descriptionLines m.comment.description ++ tagLines (shownTags options m) ++
    locationLine (shownLocation options m)

def classBlock (options : PageOptions) (m : Model) : List Char :=
  symbolBlock options "###" m ++ m.methods.flatMap (symbolBlock options "####")

def constantLine (m : Model) : List Char :=
  "- ".toList ++ code m.definition ++ ['\n']

/-- A section of the page, left out when it has no symbols. -/
def group (title : String) (models : List Model) (blockOf : Model → List Char) : List Char :=
  if models.isEmpty then [] else paragraph ("## ".toList ++ title.toList) ++ models.flatMap blockOf

def render (options : PageOptions) (d : Document) : List Char :=
  paragraph "# Reference".toList ++
    group "Functions" d.functions (symbolBlock options "###") ++
    group "Classes" d.classes (classBlock options) ++
    group "Constants" d.constants constantLine

end SymbolReference.Markdown

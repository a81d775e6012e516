import SymbolReference.Document.Basic

namespace SymbolReference

/-- A text with a backslash put before every occurrence of a character. -/
def backslashed (mark : Char) (s : List Char) : List Char :=
  s.flatMap fun c => if c = mark then ['\\', c] else [c]

/-- A string value in double quotes. Its backslashes are escaped first, then its quotes. -/
def formatText (s : List Char) : List Char :=
  '"' :: backslashed '"' (backslashed '\\' s) ++ ['"']

/-- A default or constant value. Strings stand in double quotes; everything else is written with
its type visible. -/
def formatValue (v : Value) : List Char :=
  match v.text? with
  | some s => formatText s.toList
  | none => v.render

/-- A default or constant value, unless a number in it has too many digits to be written. -/
def writeValue (v : Value) : Except Decimal.NumberError (List Char) :=
  if v.isWritable then .ok (formatValue v) else .error .unwritable

/-- A parameter: a leading `&` when it is passed by reference, brackets and the default when it is
optional. -/
def Parameter.format (p : Parameter) : List Char :=
  let mark := if p.byReference then ['&'] else []
  if p.optional then
    mark ++ '[' :: p.name.toList ++
      (if p.hasDefault then [' ', '=', ' '] ++ formatValue p.default else []) ++ [']']
  else mark ++ p.name.toList

def formatParameters (parameters : List Parameter) : List Char :=
  Text.joined [',', ' '] (parameters.map Parameter.format)

/-- Whether the default of a parameter can be written, if it is shown. -/
def Parameter.isWritable (p : Parameter) : Bool :=
  !(p.optional && p.hasDefault) || p.default.isWritable

/-- The parameters of a list, unless a number in a default has too many digits to be written. -/
def writeParameters (parameters : List Parameter) : Except Decimal.NumberError (List Char) :=
  if parameters.all Parameter.isWritable then .ok (formatParameters parameters)
  else .error .unwritable

/-- The file of a location. A location without a file name shows nothing. -/
def Location.file? (location : Location) : Option String :=
  location.file.filter fun file => !file.isEmpty

/-- The line range of a location: from its first line to its last line, or to the first one again
when no last line is known. -/
def Location.lineRange? (location : Location) : Option (Int × Int) :=
  location.startLine.map fun start => (start, location.endLine.getD start)

/-- The text of a line range. -/
def formatLines (range : Int × Int) : List Char :=
  "Lines ".toList ++ Decimal.intDigits range.1 ++ " - ".toList ++ Decimal.intDigits range.2

/-- A location as one text: the file, then the line range if there is one. Nothing without a
file. -/
def formatLocation (location : Option Location) : List Char :=
  match location with
  | none => []
  | some l =>
    match l.file? with
    | none => []
    | some file =>
      match l.lineRange? with
      | none => file.toList
      | some range => file.toList ++ ": ".toList ++ formatLines range

/-- Whether the lines of a location can be written, if they are shown. -/
def Location.isWritable (l : Location) : Bool :=
  l.file?.isNone ||
    l.lineRange?.all fun range => Decimal.isWritable range.1 && Decimal.isWritable range.2

/-- A location as one text, unless a line number has too many digits to be written. -/
def writeLocation (location : Option Location) : Except Decimal.NumberError (List Char) :=
  if location.all Location.isWritable then .ok (formatLocation location) else .error .unwritable

/-- The name of a symbol, followed by its parameters when it is called with arguments. -/
def Model.signature (m : Model) : List Char :=
  if m.kind.isCallable then
    m.name.toList ++ '(' :: formatParameters m.declaration.parameters ++ [')']
  else m.name.toList

/-- A constant with its value. -/
def Model.definition (m : Model) : List Char :=
  "const ".toList ++ m.name.toList ++ " = ".toList ++ formatValue m.declaration.value

/-- Switches of a page. None of them changes the document. -/
structure PageOptions where
  searchable : Bool := false
  scriptSource : Option String := none
  showTags : Bool := true
  showLocations : Bool := true
deriving Repr, DecidableEq

def shownTags (options : PageOptions) (m : Model) : List Tag :=
  if options.showTags then m.comment.tags else []

def shownLocation (options : PageOptions) (m : Model) : Option Location :=
  if options.showLocations then m.declaration.location else none

/-- Whether everything that a page shows of a function, class or method can be written. -/
def Model.isWritable (options : PageOptions) (m : Model) : Bool :=
  (!m.kind.isCallable || m.declaration.parameters.all Parameter.isWritable) &&
    (shownLocation options m).all Location.isWritable

/-- Whether everything that a page shows of a document can be written. -/
def Document.isWritable (options : PageOptions) (d : Document) : Bool :=
  d.functions.all (Model.isWritable options) &&
    (d.classes.all fun c => c.isWritable options && c.methods.all (Model.isWritable options)) &&
    d.constants.all fun m => m.declaration.value.isWritable

end SymbolReference

import SymbolReference.Log.State
import SymbolReference.Report.Basic

/-!
What is logged on the way to a report: what is not known about an inspected object, each comment
that is read, the finished document, the rendered text and the written file.

Comments are read in the order in which symbols were selected, before anything is sorted; a class
comes before its methods. When a report fails, what was done before the failure is still logged.
-/

namespace SymbolReference

def commentRead (c : Comment) : Log.Message where
  level := .debug
  logger := some "symref.parser.comment_parser"
  event := "comment_parsed"
  fields := [("description_chars", .int c.description.length), ("tags", .int c.tags.length)]

/-- The message about the comment of a symbol. An absent or empty comment is not read. -/
def readingOf (s : Symbol) : List Log.Message :=
  match s.declaration.comment with
  | none => []
  | some text => if text.isEmpty then [] else [commentRead (Comment.parse text)]

/-- The messages about the comments of symbols whose models are made one after the other, and
whether all of them could be made. The comment of the first symbol that has no model is still
read. -/
def readingsOf : List Symbol → List Log.Message × Bool
  | [] => ([], true)
  | s :: others =>
    match resolve s with
    | .error _ => (readingOf s, false)
    | .ok _ =>
      let (rest, complete) := readingsOf others
      (readingOf s ++ rest, complete)

/-- The messages about the comments of a class and its methods. The methods are checked before any
comment is read. -/
def classReadings (includeAll : Bool) (c : Symbol) : List Log.Message × Bool :=
  match methodsOf includeAll c with
  | .error _ => ([], false)
  | .ok methods =>
    let (rest, complete) := readingsOf methods
    (readingOf c ++ rest, complete)

/-- The messages about the comments of classes, up to the first one that has no model. -/
def classesReadings (includeAll : Bool) : List Symbol → List Log.Message
  | [] => []
  | c :: others =>
    match classReadings includeAll c with
    | (readings, true) => readings ++ classesReadings includeAll others
    | (readings, false) => readings

/-- The messages about all comments that are read to build a document. -/
def documentReadings (includeAll : Bool) (inventory : Inventory) : List Log.Message :=
  match select includeAll inventory with
  | .error _ => []
  | .ok selection =>
    (readingsOf selection.functions).1 ++ classesReadings includeAll selection.classes

def Counts.fields (c : Counts) : List (String × Value) :=
  [("functions", .int c.functions), ("classes", .int c.classes), ("methods", .int c.methods),
    ("constants", .int c.constants)]

def documentBuilt (d : Document) : Log.Message where
  level := .info
  logger := some "symref.aggregator"
  event := "document_built"
  fields := ("include_all", .bool d.includeAll) :: d.counts.fields

def documentRendered (format : OutputFormat) (text : String) : Log.Message where
  level := .debug
  logger := some "symref.renderers.base"
  event := "document_rendered"
  fields := [("output_format", .str format.name), ("chars", .int text.length)]

def referenceWritten (path text : String) : Log.Message where
  level := .info
  logger := some "symref.orchestrator"
  event := "reference_written"
  fields := [("path", .str (normalPath path)), ("size", .int text.utf8ByteSize)]

def Gap.notice (g : Gap) : Log.Message where
  level := .debug
  logger := some "symref.introspection"
  event :=
    match g.unknown with
    | .signature => "signature_unavailable"
    | .source => "source_unavailable"
  fields := [("symbol", .str g.symbol), ("error", .str g.reason)]

/-- The name that a module says it has, as a value that is logged. -/
def Program.titleValue (p : Program) : Object → Value
  | .value v => v
  | .klass number => .str ((p.classes[number]?.map ClassObject.display).getD "")
  | .function f => .str f.display
  | .callable o => .object o
  | o => .str o.typeDisplay

def modulesInspected (titles : List Value) (f : Findings) : Log.Message where
  level := .info
  logger := some "symref.introspection"
  event := "modules_introspected"
  fields :=
    [("modules", .list titles), ("functions", .int f.functionCount),
      ("classes", .int f.classes.length), ("constants", .int f.constantCount)]

namespace Report

def inspectTrace (s : Settings) (p : Program) (names : List String) : List Log.Step :=
  match p.importAll names with
  | .error _ => []
  | .ok modules =>
    let look := p.look modules s.includeAll
    let inspected :=
      match look.fault, sortedTitles p modules with
      | none, .ok titles =>
        [modulesInspected (titles.map p.titleValue) (p.inspect modules s.includeAll)]
      | _, _ => []
    (look.gaps.map Gap.notice ++ inspected).map Log.Step.emit

def buildTrace (s : Settings) (inventory : Option Inventory) : List Log.Step :=
  match inventory with
  | none => []
  | some i =>
    let built :=
      match build s (some i) with
      | .ok d => [documentBuilt d]
      | .error _ => []
    (documentReadings s.includeAll i ++ built).map Log.Step.emit

def renderTrace (s : Settings) (requested : Option String) (d : Option Document) :
    List Log.Step :=
  match format s requested, render s requested d with
  | .ok format, .ok text => [.emit (documentRendered format text)]
  | _, _ => []

/-- What generating and writing a report logs. Everything stands in a scope with the format and the
choice of symbols. -/
def publishTrace (s : Settings) (files : Files) (requested : Option String)
    (path : Option String) (inventory : Option Inventory) : List Log.Step :=
  let rendered :=
    match build s inventory with
    | .ok d => renderTrace s requested (some d)
    | .error _ => []
  let written :=
    match (publish s files requested path inventory).2, path with
    | .ok text, some path => [.emit (referenceWritten path text)]
    | _, _ => []
  Log.Step.enter [("output_format", .str (s.formatName requested)),
      ("include_all", .bool s.includeAll)] ::
    buildTrace s inventory ++ rendered ++ written ++ [.leave]

end Report

end SymbolReference

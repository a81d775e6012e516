import SymbolReference.Config.File
import SymbolReference.Document.Build
import SymbolReference.Inspection.Look

namespace SymbolReference

/-- The name of the format that is meant: an absent or empty name means the format of the
settings. -/
def Settings.formatName (s : Settings) (requested : Option String) : String :=
  match requested with
  | none => s.outputFormat.name
  | some name => if name.isEmpty then s.outputFormat.name else name

/-- Why a report fails. -/
inductive ReportError where
  | failure (f : Failure)
  | file (e : FileError)

/-- The counts of the document that a report would show. -/
structure Stats where
  includeAll : Bool
  counts : Counts
deriving Repr, DecidableEq

/-- The number of all symbols. -/
def Stats.total (s : Stats) : Nat := s.counts.total

namespace Report

/-- Inspect modules by name. The host is looked at only when its symbols are kept. -/
def inspect (s : Settings) (p : Program) (names : List String) : Except InspectError Findings :=
  p.inspectNames names s.includeAll

def build (s : Settings) (inventory : Option Inventory) : Except Failure Document :=
  (Document.build? s.includeAll inventory).mapError DocumentError.failure

def format (s : Settings) (requested : Option String) : Except Fault OutputFormat :=
  OutputFormat.resolve (s.formatName requested)

/-- The text of a document that may be missing. The format is looked up first. -/
def render (s : Settings) (requested : Option String) (d : Option Document) :
    Except Failure String := do
  let format ← (format s requested).mapError Failure.fault
  renderDocument? format s.pageOptions d

/-- The text of the document of an inventory. The document is built first. -/
def generate (s : Settings) (requested : Option String) (inventory : Option Inventory) :
    Except Failure String := do
  let d ← build s inventory
  render s requested (some d)

/-- The text of the document of an inventory, written to a path if one is given, and the files
afterwards. Directories that were made stay when the file cannot be written. -/
def publish (s : Settings) (files : Files) (requested : Option String) (path : Option String)
    (inventory : Option Inventory) : Files × Except ReportError String :=
  match generate s requested inventory with
  | .error f => (files, .error (.failure f))
  | .ok text =>
    match path with
    | none => (files, .ok text)
    | some path =>
      match files.write (normalPath path) text with
      | (files, .ok _) => (files, .ok text)
      | (files, .error e) => (files, .error (.file e))

/-- The counts of the document of an inventory. -/
def stats (s : Settings) (inventory : Option Inventory) : Except Failure Stats := do
  let d ← build s inventory
  return { includeAll := d.includeAll, counts := d.counts }

end Report

end SymbolReference

import SymbolReference.Report.Trace

namespace SymbolReference

/-- Where an inventory comes from. Values of one origin are the same objects each time. -/
inductive Origin where
  | supplied (number : Nat)
  | inspected
deriving Repr, DecidableEq

/-- What is at hand. -/
structure Workbench where
  surroundings : Surroundings
  program : Program
  settings : Settings := {}
  inventory : Option Inventory := none
  origin : Origin := .supplied 0
  supplies : Nat := 0
  document : Option (Origin × Document) := none

/-- What can be done at a workbench. -/
inductive Action where
  | configure (explicit : List (String × Value)) (file : Option String)
  | supply (inventory : Option Inventory)
  | inspect (names : List String)
  | build
  | render (format : Option String)
  | generate (format path : Option String)
  | read (path : String)
  | stats
  | format (format : Option String)

inductive Answer where
  | settings (s : Settings)
  | supplied
  | findings (f : Findings)
  | document (d : Document) (sameAsBefore : Bool)
  | text (output : String)
  | contents (text : String)
  | stats (s : Stats)
  | format (f : OutputFormat)

/-- Why an action fails. -/
inductive ActionError where
  | config (e : ConfigError)
  | inspect (e : InspectError)
  | report (e : ReportError)

def ActionError.failure (f : Failure) : ActionError := .report (.failure f)

namespace Workbench

/-- Whether a document equals the one at hand. -/
def sameAsBefore (w : Workbench) (d : Document) : Bool :=
  match w.document with
  | none => false
  | some (origin, before) => Document.same (origin == w.origin) d before

def withFiles (w : Workbench) (files : Files) : Workbench :=
  { w with surroundings := { w.surroundings with files } }

def step (w : Workbench) : Action → Workbench × Except ActionError Answer
  | .configure explicit file =>
    match Settings.find w.surroundings explicit file with
    | .ok settings => ({ w with settings }, .ok (.settings settings))
    | .error e => (w, .error (.config e))
  | .supply inventory =>
    let supplies := w.supplies + 1
    ({ w with inventory, supplies, origin := .supplied supplies }, .ok .supplied)
  | .inspect names =>
    match Report.inspect w.settings w.program names with
    | .ok findings =>
      ({ w with inventory := some findings.inventory, origin := .inspected },
        .ok (.findings findings))
    | .error e => (w, .error (.inspect e))
  | .build =>
    match Report.build w.settings w.inventory with
    | .ok d => ({ w with document := some (w.origin, d) }, .ok (.document d (w.sameAsBefore d)))
    | .error f => (w, .error (.failure f))
  | .render format =>
    match Report.render w.settings format (w.document.map Prod.snd) with
    | .ok text => (w, .ok (.text text))
    | .error f => (w, .error (.failure f))
  | .generate format path =>
    let (files, result) :=
      Report.publish w.settings w.surroundings.files format path w.inventory
    (w.withFiles files,
      match result with
      | .ok text => .ok (.text text)
      | .error e => .error (.report e))
  | .read path =>
    match w.surroundings.files.read (normalPath path) with
    | .ok text => (w, .ok (.contents text))
    | .error e => (w, .error (.report (.file e)))
  | .stats =>
    match Report.stats w.settings w.inventory with
    | .ok stats => (w, .ok (.stats stats))
    | .error f => (w, .error (.failure f))
  | .format format =>
    match Report.format w.settings format with
    | .ok format => (w, .ok (.format format))
    | .error f => (w, .error (.failure (.fault f)))

def trace (w : Workbench) : Action → List Log.Step
  | .configure explicit file =>
    (Settings.findNotices w.surroundings explicit file).map Log.Step.note
  | .inspect names => Report.inspectTrace w.settings w.program names
  | .build | .stats => Report.buildTrace w.settings w.inventory
  | .render format => Report.renderTrace w.settings format (w.document.map Prod.snd)
  | .generate format path =>
    Report.publishTrace w.settings w.surroundings.files format path w.inventory
  | .supply _ | .read _ | .format _ => []

end Workbench

end SymbolReference

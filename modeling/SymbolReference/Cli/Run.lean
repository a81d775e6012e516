import SymbolReference.Cli.Display
import SymbolReference.Cli.Request
import SymbolReference.Log.Line
import SymbolReference.Report.Trace

namespace SymbolReference.Cli

/-- Where a command line runs. The stamp is the time that log lines show. -/
structure Scene where
  surroundings : Surroundings
  program : Program := .bare
  input : String := ""
  stamp : String := ""
  onTerminal : Bool := false

/-- The width of a terminal, unless a variable sets another one. Notices always have this width. -/
def defaultWidth : Nat := 80

/-- The number that a variable holds, if its value is made of digits. Not all digits make up
numbers. -/
def Scene.count? (s : Scene) (name : String) : Except Decimal.NumberError (Option Nat) :=
  match s.surroundings.environment.get? name with
  | none => .ok none
  | some text =>
    if !text.isEmpty && text.toList.all Text.isDigit then do
      return some (← Decimal.readWhole 10 text.toList).toNat
    else .ok none

/-- The width at which the output is printed. The height is read too, though nothing depends on
it. -/
def Scene.width (s : Scene) : Except Decimal.NumberError Nat := do
  let columns ← s.count? "COLUMNS"
  let _ ← s.count? "LINES"
  return columns.getD defaultWidth

/-- An error that ends a run without being reported. -/
inductive Crash where
  | config (e : ConfigError)
  | level (e : Log.LevelError)
  | inspect (e : InspectError)
  | file (e : FileError)
  | markup (e : Terminal.MarkupError)
  | number (e : Decimal.NumberError)
  | cut (e : Terminal.CutError)

/-- What a run writes beside its output: log lines and notices. -/
inductive Notice where
  | log (line : Log.Line)
  | text (s : String)

/-- The result of a run. -/
structure Outcome where
  exitCode : Nat := 0
  crash : Option Crash := none
  output : String := ""
  notices : List Notice := []
  files : Files := {}

/-- A run under way: the state of logging, and what has been noted and written so far. -/
structure Run where
  scene : Scene
  log : Log.State := .initial
  notices : List Notice := []
  files : Files

namespace Run

def start (scene : Scene) (args : List String) : Run where
  scene :=
    { scene with
      surroundings := { scene.surroundings with program := programName, arguments := args } }
  files := scene.surroundings.files

def trace (r : Run) (steps : List Log.Step) : Run :=
  let (log, lines) := r.log.run r.scene.stamp steps
  { r with log, notices := r.notices ++ lines.map Notice.log }

def succeed (r : Run) (output : String) : Outcome where
  output := output
  notices := r.notices
  files := r.files

def stop (r : Run) (exitCode : Nat) (notice : String) : Outcome where
  exitCode := exitCode
  notices := r.notices ++ [.text notice]
  files := r.files

def crash (r : Run) (c : Crash) (output : String := "") : Outcome where
  exitCode := 1
  crash := some c
  output := output
  notices := r.notices
  files := r.files

def note (r : Run) (lines : List String) : Run :=
  { r with notices := r.notices ++ lines.map fun line => .text (line ++ "\n") }

def stopWith (r : Run) (exitCode : Nat) (markup : List Char) : Outcome :=
  match Terminal.checkMarkup markup with
  | .error e => (r.note e.warnings).crash (.markup e)
  | .ok _ =>
    let printed := Terminal.print defaultWidth markup
    let outcome := r.stop exitCode (String.ofList printed.text)
    match printed.error with
    | none => outcome
    | some e => { outcome with exitCode := 1, crash := some (.cut e) }

def display (r : Run) (output : Nat → Terminal.Printout) : Outcome :=
  match r.scene.width with
  | .error e => r.crash (.number e)
  | .ok width =>
    let printed := output width
    match printed.error with
    | none => r.succeed (String.ofList printed.text)
    | some e => r.crash (.cut e) (String.ofList printed.text)

def fail (r : Run) (f : Fault) : Outcome :=
  r.stopWith 1 (failureText f.message)

/-- End a run because there is no document or page. A number that cannot be written is no fault. -/
def abandon (r : Run) : Failure → Outcome
  | .fault f => r.fail f
  | .number e => r.crash (.number e)

def misuse (r : Run) (place : Option Command) (problem : UsageProblem) : Outcome :=
  r.stop 2 (problem.text place)

/-- End a run because its settings cannot be loaded. The search for them may itself end the program
with a code. -/
def misconfigured (r : Run) (e : ConfigError) : Outcome :=
  match e with
  | .fault f | .rejectedFile f _ => r.fail f
  | .lookup (.exit code output notice) => { r.stop code notice with output }
  | e => r.crash (.config e)

/-- End a run because modules cannot be inspected. -/
def uninspected (r : Run) (e : InspectError) : Outcome :=
  match e with
  | .imports (.notFound name reason) => r.fail (importFault name reason)
  | e => r.crash (.inspect e)

def setUp (r : Run) (s : Settings) : Except Outcome Run :=
  match r.log.configure { level := s.logLevel, json := s.jsonLogs } r.scene.onTerminal with
  | (log, .ok _) => .ok { r with log }
  | (log, .error e) => .error ({ r with log }.crash (.level e))

end Run

/-- The settings that the options of a request set. Options that are not given set nothing. -/
def RenderRequest.explicit (q : RenderRequest) : List (String × Value) :=
  (if q.includeAll then [(SettingName.includeAll.text, Value.bool true)] else []) ++
    (q.format.map fun f => (SettingName.outputFormat.text, Value.str f.name)).toList ++
    (if q.searchable then [(SettingName.searchable.text, Value.bool true)] else []) ++
    (q.scriptSource.map fun s => (SettingName.scriptSource.text, Value.str s)).toList

/-- The file that a request names for its text. An empty name counts as none. -/
def RenderRequest.target? (q : RenderRequest) : Option String :=
  q.output.filter fun path => !path.isEmpty

/-- The settings that a request to count sets: always whether symbols of the host count. -/
def StatsRequest.explicit (q : StatsRequest) : List (String × Value) :=
  [(SettingName.includeAll.text, .bool q.includeAll)]

namespace Run

/-- Go on with the settings from explicit values, a configuration file if one is named, and the
surroundings. What is said on the way is noted. -/
def withSettings (r : Run) (explicit : List (String × Value)) (file : Option String)
    (next : Run → Settings → Outcome) : Outcome :=
  let around := r.scene.surroundings
  let r := r.note (Settings.findNotices around explicit file)
  match Settings.find around explicit file with
  | .error e => r.misconfigured e
  | .ok s => next r s

/-- End a run with the text of a report: a notice if it went to a file, else the text itself. -/
def deliver (r : Run) (target : Option String) (text : String) : Outcome :=
  match target with
  | none => r.succeed (text ++ "\n")
  | some path => r.stopWith 0 (successText path text)

def renderWith (r : Run) (q : RenderRequest) (s : Settings) : Outcome :=
  let inspected := r.trace (Report.inspectTrace s r.scene.program q.modules)
  match Report.inspect s r.scene.program q.modules with
  | .error e => inspected.uninspected e
  | .ok findings =>
    let inventory := some findings.inventory
    let traced := inspected.trace (Report.publishTrace s r.files none q.target? inventory)
    let (files, published) := Report.publish s r.files none q.target? inventory
    -- Directories may have been made also when the page could not be written.
    let written := { traced with files }
    match published with
    | .error (.failure f) => written.abandon f
    | .error (.file e) => written.crash (.file e)
    | .ok text => written.deliver q.target? text

/-- Render the reference of modules. A configuration file may set up logging anew. -/
def render (r : Run) (q : RenderRequest) : Outcome :=
  r.withSettings q.explicit q.config fun r s =>
    if q.config.isSome then
      match r.setUp s with
      | .error outcome => outcome
      | .ok r => r.renderWith q s
    else r.renderWith q s

/-- Show how a comment is read. -/
def parseComment (r : Run) (text : String) : Outcome :=
  let c := Comment.parse? (some text)
  let read := if text.isEmpty then [] else [Log.Step.emit (commentRead c)]
  (r.trace read).display fun width => commentText width c

def countWith (r : Run) (q : StatsRequest) (s : Settings) : Outcome :=
  let inspected := r.trace (Report.inspectTrace s r.scene.program q.modules)
  match Report.inspect s r.scene.program q.modules with
  | .error e => inspected.uninspected e
  | .ok findings =>
    let inventory := some findings.inventory
    let traced := inspected.trace (Report.buildTrace s inventory)
    match Report.stats s inventory with
    | .error f => traced.abandon f
    | .ok counted =>
      if q.json then
        traced.succeed (String.ofList ((statsJson counted).writeIndented 0 ++ ['\n']))
      else traced.display fun width => statsText width counted

def command (r : Run) (c : Command) (args : List String) : Outcome :=
  match Request.read r.files r.scene.input c args with
  | .error (.misuse problem) => r.misuse (some c) problem
  | .error (.noPath e) => r.crash (.file e)
  | .ok .help => r.succeed (help (some c))
  | .ok (.render q) => r.render q
  | .ok (.parseComment text) => r.parseComment text
  | .ok (.stats q) => r.withSettings q.explicit none fun r s => r.countWith q s

end Run

/-- Run a command line. Without arguments the help is shown as a notice. -/
def run (scene : Scene) (args : List String) : Outcome :=
  let r := Run.start scene args
  if args.isEmpty then r.stop 2 (help none)
  else
    match ProgramRequest.read args with
    | .error problem => r.misuse none problem
    | .ok .help => r.succeed (help none)
    | .ok .version => r.succeed (programName ++ ", version " ++ version ++ "\n")
    | .ok (.command c rest) =>
      let r := r.note (Settings.notices scene.surroundings Mapping.empty)
      match Settings.fromSurroundings scene.surroundings Mapping.empty with
      | .error e => r.crash (.config e)
      | .ok s =>
        match r.setUp s with
        | .error outcome => outcome
        | .ok r => r.command c rest

def namedFiles (args : List String) : List String :=
  match ProgramRequest.read args with
  | .ok (.command c rest) =>
    match Arguments.read c.options true rest with
    | .ok a =>
      let sources := if c = .parseComment then a.rest else []
      sources ++ [a.value? .output, a.value? .config].filterMap id
    | .error _ => []
  | _ => []

def readsInput (args : List String) : Bool :=
  match ProgramRequest.read args with
  | .ok (.command .parseComment rest) =>
    match Arguments.read Command.parseComment.options true rest with
    | .ok a => !a.has .help && (a.rest.head?.getD "-") == "-"
    | .error _ => false
  | _ => false

/-- The names of the variables that a run looks at. -/
def variableNames : List String :=
  let rules : VariableRules := {}
  let settings := SettingName.all.map fun name => rules.key (rules.start ++ name.text)
  "COLUMNS" :: "LINES" :: settings ++
    settings.map fun name => String.ofList (Text.upper name.toList)

end SymbolReference.Cli

import SymbolReference.Cli.Command
import SymbolReference.Files
import SymbolReference.Page.Render

namespace SymbolReference.Cli

structure RenderRequest where
  modules : List String
  includeAll : Bool := false
  format : Option OutputFormat := none
  output : Option String := none
  searchable : Bool := false
  scriptSource : Option String := none
  config : Option String := none
deriving Repr, DecidableEq

/-- A request to count the symbols of modules. -/
structure StatsRequest where
  modules : List String
  includeAll : Bool := false
  json : Bool := false
deriving Repr, DecidableEq

/-- What a command is asked for. A comment is given by its text. -/
inductive Request where
  | help
  | render (r : RenderRequest)
  | parseComment (text : String)
  | stats (r : StatsRequest)
deriving Repr, DecidableEq

/-- Why the arguments of a command ask for nothing: they are wrong, or one of them is no path at
all. -/
inductive RequestError where
  | misuse (problem : UsageProblem)
  | noPath (e : FileError)

/-- What is at the path of an option. The file system may say why nothing is there. -/
def findAt (files : Files) (path : String) : Except RequestError (Option PathTarget) :=
  match files.find path with
  | .ok target => .ok (some target)
  | .error e => if e.report?.isSome then .ok none else .error (.noPath e)

/-- Check the value of an option: a format has to be known, a configuration file has to be there,
and no file may be a directory. -/
def checkOption (files : Files) (a : Arguments) (o : OptionName) : Except RequestError Unit :=
  match o, a.value? o with
  | .format, some name =>
    if (OutputFormat.ofName? name).isSome then .ok () else .error (.misuse (.unknownFormat name))
  | .output, some path => do
    match ← findAt files path with
    | some .directory => .error (.misuse (.directory .output path))
    | some (.file _) | none => .ok ()
  | .config, some path => do
    match ← findAt files path with
    | some (.file _) => .ok ()
    | some .directory => .error (.misuse (.directory .config path))
    | none => .error (.misuse (.missingFile .config path))
  | _, _ => .ok ()

def checkOptions (files : Files) (a : Arguments) : List OptionName → Except RequestError Unit
  | [] => .ok ()
  | o :: others => do
    checkOption files a o
    checkOptions files a others

/-- The names of modules, of which there is at least one. -/
def requireModules (command : Command) (modules : List String) :
    Except RequestError (List String) :=
  if modules.isEmpty then .error (.misuse (.missingArgument command.arguments)) else .ok modules

/-- The text of a source: of a file, or of the input when no file or a dash is named. Line ends
become line feeds. -/
def readSource (files : Files) (input : String) (source : Option String) :
    Except RequestError String :=
  let unix := fun text : String => String.ofList (Text.unixNewlines text.toList)
  match source with
  | none => .ok (unix input)
  | some path =>
    if path = "-" then .ok (unix input)
    else
      match files.read path with
      | .ok text => .ok (unix text)
      | .error e =>
        match e.report? with
        | some (_, reason, _) => .error (.misuse (.unreadableSource path reason))
        | none => .error (.noPath e)

def Request.ofArguments (files : Files) (input : String) (command : Command) (a : Arguments) :
    Except RequestError Request :=
  if a.has .help then .ok .help
  else do
    checkOptions files a a.order
    match command with
    | .render =>
      let modules ← requireModules command a.rest
      return .render {
        modules
        includeAll := a.has .all
        format := (a.value? .format).bind OutputFormat.ofName?
        output := a.value? .output
        searchable := a.has .searchable
        scriptSource := a.value? .scriptSource
        config := a.value? .config }
    | .parseComment =>
      let text ← readSource files input a.rest.head?
      if a.rest.length > 1 then .error (.misuse (.extraArguments (a.rest.drop 1)))
      else return .parseComment text
    | .stats =>
      let modules ← requireModules command a.rest
      return .stats { modules, includeAll := a.has .all, json := a.has .json }

def Request.read (files : Files) (input : String) (command : Command) (args : List String) :
    Except RequestError Request :=
  match Arguments.read command.options true args with
  | .error e => .error (.misuse (.arguments e))
  | .ok a => Request.ofArguments files input command a

/-- What a command line asks the program for: help, its version, or a command with the arguments
that follow. -/
inductive ProgramRequest where
  | help
  | version
  | command (c : Command) (args : List String)

def programOptions : List OptionName := [.version, .help]

def programAnswer? (a : Arguments) : Option ProgramRequest :=
  match a.given with
  | [] => none
  | (.version, _) :: _ => some .version
  | _ :: _ => some .help

/-- What a command line asks the program for. A name that is no command is read again as an option,
so that options are also found after two dashes. -/
def ProgramRequest.read (args : List String) : Except UsageProblem ProgramRequest :=
  match Arguments.read programOptions false args with
  | .error e => .error (.arguments e)
  | .ok a =>
    match programAnswer? a, a.rest with
    | some answer, _ => .ok answer
    | none, [] => .error .missingCommand
    | none, name :: others =>
      match Command.ofName? name with
      | some c => .ok (.command c others)
      | none =>
        match Arguments.read programOptions false (name :: others) with
        | .error e => .error (.arguments e)
        | .ok again =>
          match programAnswer? again with
          | some answer => .ok answer
          | none => .error (.noSuchCommand name)

end SymbolReference.Cli

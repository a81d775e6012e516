import SymbolReference.Cli.Arguments

namespace SymbolReference.Cli

inductive Command where
  | render
  | parseComment
  | stats
deriving Repr, DecidableEq

namespace Command

def name : Command → String
  | render => "render"
  | parseComment => "parse-comment"
  | stats => "stats"

def ofName? : String → Option Command
  | "render" => some render
  | "parse-comment" => some parseComment
  | "stats" => some stats
  | _ => none

def all : List Command := [parseComment, render, stats]

theorem ofName?_name (command : Command) : ofName? command.name = some command := by
  cases command <;> rfl

def options : Command → List OptionName
  | render => [.all, .format, .output, .searchable, .scriptSource, .config, .help]
  | parseComment => [.help]
  | stats => [.all, .json, .help]

def arguments : Command → String
  | render | stats => "MODULES..."
  | parseComment => "[SOURCE]"

def description : Command → String
  | render =>
    "  Render a reference document for MODULES.\n\n" ++
    "  Examples:     symref render json     symref render mypkg.api -f markdown -o\n" ++
    "  docs/api.md\n\n" ++
    "Options:\n" ++
    "  --all                         Include host built-ins, not only symbols defined\n" ++
    "                                in MODULES.\n" ++
    "  -f, --format [html|markdown]  Output format (default: html).\n" ++
    "  -o, --output FILE             File to write. Prints to stdout if omitted.\n" ++
    "  --searchable                  Add the search input (HTML).\n" ++
    "  --script-src TEXT             Script URL referenced by the trailer (HTML).\n" ++
    "  -c, --config FILE             YAML configuration file.\n" ++
    "  --help                        Show this message and exit.\n"
  | parseComment =>
    "  Parse a documentation comment and show its description and tags.\n\n" ++
    "  Reads SOURCE (a file, or stdin when omitted). Useful for checking how a\n" ++
    "  comment will appear in the rendered reference.\n\n" ++
    "Options:\n" ++
    "  --help  Show this message and exit.\n"
  | stats =>
    "  Show symbol counts for MODULES.\n\n" ++
    "Options:\n" ++
    "  --all   Include host built-ins.\n" ++
    "  --json  Output as JSON.\n" ++
    "  --help  Show this message and exit.\n"

end Command

def programName : String := "symref"

def version : String := "0.1.0"

def callName : Option Command → String
  | none => programName
  | some command => programName ++ " " ++ command.name

def usage (place : Option Command) : String :=
  "Usage: " ++ callName place ++ " [OPTIONS] " ++
    (match place with
      | none => "COMMAND [ARGS]..."
      | some command => command.arguments) ++ "\n"

def programDescription : String :=
  "  Runtime symbol reference generator.\n\n" ++
  "  Introspects imported modules and renders their functions, classes and\n" ++
  "  constants, with parsed documentation comments, as HTML or Markdown.\n\n" ++
  "Options:\n" ++
  "  --version  Show the version and exit.\n" ++
  "  --help     Show this message and exit.\n\n" ++
  "Commands:\n" ++
  "  parse-comment  Parse a documentation comment and show its description and...\n" ++
  "  render         Render a reference document for MODULES.\n" ++
  "  stats          Show symbol counts for MODULES.\n"

def help (place : Option Command) : String :=
  usage place ++ "\n" ++
    (match place with
      | none => programDescription
      | some command => command.description)

/-- What can be wrong with a command line. -/
inductive UsageProblem where
  | arguments (e : ArgumentError)
  | missingCommand
  | noSuchCommand (name : String)
  | missingArgument (name : String)
  | unknownFormat (value : String)
  | missingFile (option : OptionName) (path : String)
  | directory (option : OptionName) (path : String)
  | unreadableSource (path reason : String)
  | extraArguments (values : List String)
deriving Repr, DecidableEq

namespace UsageProblem

/-- The message about a wrong command line. -/
def message : UsageProblem → String
  | arguments e => e.message
  | missingCommand => "Missing command."
  | noSuchCommand name =>
    "No such command " ++ Text.quote name ++ "." ++
      suggestion (Text.closeNames name (Command.all.map Command.name))
  | missingArgument name => "Missing argument '" ++ name ++ "'."
  | unknownFormat value =>
    "Invalid value for " ++ OptionName.format.label ++ ": " ++ Text.quote value ++
      " is not one of 'html', 'markdown'."
  | missingFile option path =>
    "Invalid value for " ++ option.label ++ ": File " ++ Text.quote path ++ " does not exist."
  | directory option path =>
    "Invalid value for " ++ option.label ++ ": File " ++ Text.quote path ++ " is a directory."
  | unreadableSource path reason =>
    "Invalid value for '[SOURCE]': '" ++ path ++ "': " ++ reason
  | extraArguments values =>
    "Got unexpected extra argument" ++ (if values.length = 1 then "" else "s") ++ " (" ++
      String.intercalate " " values ++ ")"

/-- Whether a message stands alone. The others follow the usage. -/
def standsAlone : UsageProblem → Bool
  | arguments (.needsValue _) | arguments (.takesNoValue _) => true
  | _ => false

/-- The text that is shown about a wrong command line. -/
def text (problem : UsageProblem) (place : Option Command) : String :=
  let shown := "Error: " ++ problem.message ++ "\n"
  if problem.standsAlone then shown
  else
    usage place ++ "Try '" ++ callName place ++ " --help' for help.\n\n" ++ shown

end UsageProblem

end SymbolReference.Cli

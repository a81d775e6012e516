import SymbolReference.Config.EnvFile
import SymbolReference.Page.Render

namespace SymbolReference

structure Settings where
  includeAll : Bool := false
  outputFormat : OutputFormat := .html
  searchable : Bool := false
  scriptSource : Option String := none
  showTags : Bool := true
  showLocations : Bool := true
  logLevel : String := "INFO"
  jsonLogs : Option Bool := none
deriving Repr, DecidableEq

def Settings.pageOptions (s : Settings) : PageOptions where
  searchable := s.searchable
  scriptSource := s.scriptSource
  showTags := s.showTags
  showLocations := s.showLocations

inductive SettingName where
  | includeAll
  | outputFormat
  | searchable
  | scriptSource
  | showTags
  | showLocations
  | logLevel
  | jsonLogs
deriving Repr, DecidableEq

/-- The name of a setting as it is written in files and variables. -/
def SettingName.text : SettingName → String
  | includeAll => "include_all"
  | outputFormat => "output_format"
  | searchable => "searchable"
  | scriptSource => "script_src"
  | showTags => "show_tags"
  | showLocations => "show_locations"
  | logLevel => "log_level"
  | jsonLogs => "json_logs"

/-- Why a value does not fit a setting. -/
inductive Misfit where
  | notBoolean
  | unreadableBoolean
  | notText
  | unreadableText
  | unknownFormat
deriving Repr, DecidableEq

/-- The short name of a misfit. -/
def Misfit.code : Misfit → String
  | notBoolean => "bool_type"
  | unreadableBoolean => "bool_parsing"
  | notText => "string_type"
  | unreadableText => "string_unicode"
  | unknownFormat => "literal_error"

def Misfit.message : Misfit → String
  | notBoolean => "Input should be a valid boolean"
  | unreadableBoolean => "Input should be a valid boolean, unable to interpret input"
  | notText => "Input should be a valid string"
  | unreadableText =>
    "Input should be a valid string, unable to parse raw data as a unicode string"
  | unknownFormat => "Input should be 'html' or 'markdown'"

/-- A setting whose value does not fit. -/
structure Problem where
  setting : SettingName
  misfit : Misfit
deriving Repr, DecidableEq

def truthOf? (word : String) : Option Bool :=
  if ["0", "off", "f", "false", "n", "no"].contains word then some false
  else if ["1", "on", "t", "true", "y", "yes"].contains word then some true
  else none

/-- Whether a text can be encoded: it holds no halves of surrogate pairs. -/
def isEncodable (text : String) : Bool :=
  !text.toList.any Text.isStandIn

/-- The truth value that a text stands for, in any case of its ASCII letters. -/
def readTruth (text : String) : Except Misfit Bool :=
  match truthOf? (String.ofList (text.toList.map Char.toLower)) with
  | some b => .ok b
  | none => .error (if isEncodable text then .unreadableBoolean else .unreadableText)

def decodeText (bytes : List UInt8) : Option String :=
  String.fromUTF8? ⟨bytes.toArray⟩

/-- A truth value: a boolean, the numbers zero and one, or a word for it. Whole numbers beyond 64
bits count as no numbers. -/
def readBoolean : Value → Except Misfit Bool
  | .bool b => .ok b
  | .int n =>
    if n = 0 then .ok false
    else if n = 1 then .ok true
    else if -9223372036854775808 ≤ n && n < 9223372036854775808 then .error .unreadableBoolean
    else .error .notBoolean
  | .float x =>
    if x == 0.0 then .ok false else if x == 1.0 then .ok true else .error .notBoolean
  | .str s => readTruth s
  | .kind k => readTruth k.label
  | .bytes data =>
    match decodeText data with
    | some s => readTruth s
    | none => .error .unreadableBoolean
  | _ => .error .notBoolean

def readText : Value → Except Misfit String
  | .str s => .ok s
  | .kind k => .ok k.label
  | .bytes data =>
    match decodeText data with
    | some s => .ok s
    | none => .error .unreadableText
  | _ => .error .notText

def readFormat (v : Value) : Except Misfit OutputFormat :=
  match v.text?.bind OutputFormat.ofName? with
  | some format => .ok format
  | none =>
    .error (if v.text?.all isEncodable then .unknownFormat else .unreadableText)

/-- A value that may be absent. -/
def readOptional {α : Type} (read : Value → Except Misfit α) (v : Value) :
    Except Misfit (Option α) :=
  match v with
  | .none => .ok none
  | v => (read v).map some

/-- How variables are looked up: whether the case of their names counts, what stands before the
name of a setting and whether it must, whether empty values count, and the text that stands for
nothing. -/
structure VariableRules where
  exactCase : Bool := false
  start : String := "SYMREF_"
  started : Bool := true
  ignoreEmpty : Bool := false
  noneText : Option String := none
deriving Repr, DecidableEq

def VariableRules.key (rules : VariableRules) (name : String) : String :=
  if rules.exactCase then name else String.ofList (Text.lower name.toList)

/-- Variables as they are compared. The last of several spellings wins, and empty values may be
left out. -/
def VariableRules.compared (rules : VariableRules) (found : Mapping (Option String)) :
    Mapping (Option String) :=
  Mapping.ofList ((found.toList.filter fun entry =>
    !(rules.ignoreEmpty && entry.2 = some "")).map fun entry => (rules.key entry.1, entry.2))

def VariableRules.variable (rules : VariableRules) (name : SettingName) : String :=
  rules.key ((if rules.started then rules.start else "") ++ name.text)

def VariableRules.value (rules : VariableRules) (text : String) : Value :=
  if rules.noneText = some text then .none else .str text

/-- Where settings come from: arguments, explicit values, environment variables, the variables of
files, and secrets, which are files named like variables. -/
structure Sources where
  rules : VariableRules := {}
  arguments : List (SettingName × Value) := []
  explicit : Mapping Value := Mapping.empty
  environment : Mapping (Option String) := Mapping.empty
  envFiles : Mapping (Option String) := Mapping.empty
  secrets : Mapping String := Mapping.empty

/-- The explicit value of a setting: the first one whose name is that of the setting in any case. -/
def explicitValue? (explicit : Mapping Value) (name : SettingName) : Option Value :=
  (explicit.toList.find? fun entry =>
    Text.lower entry.1.toList == name.text.toList).map Prod.snd

/-- The value of a setting from variables. -/
def VariableRules.find? (rules : VariableRules) (known : Mapping (Option String))
    (name : SettingName) : Option Value :=
  ((known.get? (rules.variable name)).bind id).map rules.value

/-- The value of a setting from the variables of files. A name that need not have the start may have
it, and then its text counts as it stands, unless it is empty. -/
def VariableRules.findInFiles? (rules : VariableRules) (known : Mapping (Option String))
    (name : SettingName) : Option Value :=
  let whole :=
    if rules.started then none
    else ((known.get? (rules.key rules.start ++ name.text)).bind id).filter fun s => !s.isEmpty
  whole.map Value.str <|> rules.find? known name

def Sources.value? (sources : Sources) (name : SettingName) : Option Value :=
  let rules := sources.rules
  sources.arguments.lookup name <|> explicitValue? sources.explicit name <|>
    rules.find? sources.environment name <|> rules.findInFiles? sources.envFiles name <|>
    (sources.secrets.get? (rules.variable name)).map Value.str

def Sources.read {α : Type} (sources : Sources) (name : SettingName)
    (read : Value → Except Misfit α) (default : α) : Except Misfit α :=
  match sources.value? name with
  | some v => read v
  | none => .ok default

/-- The problem with a setting, if its value does not fit. -/
def problem? {α : Type} (name : SettingName) : Except Misfit α → Option Problem
  | .ok _ => none
  | .error misfit => some { setting := name, misfit }

def Settings.load (sources : Sources) : Except (List Problem) Settings :=
  let d : Settings := {}
  let includeAll := sources.read .includeAll readBoolean d.includeAll
  let outputFormat := sources.read .outputFormat readFormat d.outputFormat
  let searchable := sources.read .searchable readBoolean d.searchable
  let scriptSource := sources.read .scriptSource (readOptional readText) d.scriptSource
  let showTags := sources.read .showTags readBoolean d.showTags
  let showLocations := sources.read .showLocations readBoolean d.showLocations
  let logLevel := sources.read .logLevel readText d.logLevel
  let jsonLogs := sources.read .jsonLogs (readOptional readBoolean) d.jsonLogs
  match includeAll, outputFormat, searchable, scriptSource, showTags, showLocations, logLevel,
    jsonLogs with
  | .ok includeAll, .ok outputFormat, .ok searchable, .ok scriptSource, .ok showTags,
    .ok showLocations, .ok logLevel, .ok jsonLogs =>
    .ok { includeAll, outputFormat, searchable, scriptSource, showTags, showLocations, logLevel,
          jsonLogs }
  | _, _, _, _, _, _, _, _ =>
    .error ([problem? .includeAll includeAll, problem? .outputFormat outputFormat,
      problem? .searchable searchable, problem? .scriptSource scriptSource,
      problem? .showTags showTags, problem? .showLocations showLocations,
      problem? .logLevel logLevel, problem? .jsonLogs jsonLogs].filterMap id)

end SymbolReference

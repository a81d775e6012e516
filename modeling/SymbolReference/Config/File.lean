import SymbolReference.Config.Lookup
import SymbolReference.Yaml.Load

namespace SymbolReference

/-- Why settings cannot be loaded. `rejected` is a set of settings with problems; when they came
through a file, the fault that reports them is given too. `repeated` is an explicit value for an
argument that a function already has. -/
inductive ConfigError where
  | fault (f : Fault)
  | rejected (problems : List Problem)
  | rejectedFile (f : Fault) (problems : List Problem)
  | nonTextKey
  | repeated (function argument : String)
  | lookup (e : LookupError)
  | number (e : Decimal.NumberError)
  | yaml (e : Yaml.Error)
  | file (e : FileError)

/-- The message about an explicit value for an argument that a function already has. -/
def repeatedMessage (function argument : String) : String :=
  function ++ "() got multiple values for argument " ++ Text.quote argument

/-- Fail if some name is among those that a function already has a value for. -/
def refuseNames (function : String) (taken : List String) (explicit : List (String × Value)) :
    Except ConfigError Unit :=
  match explicit.find? fun entry => taken.contains entry.1 with
  | some entry => .error (.repeated function entry.1)
  | none => .ok ()

def Settings.fromSurroundings (s : Surroundings) (explicit : Mapping Value) :
    Except ConfigError Settings := do
  refuseNames "BaseSettings.__init__" ["__pydantic_self__"] explicit.toList
  match s.sources explicit with
  | .error e => .error (.lookup e)
  | .ok sources =>
    match Settings.load sources with
    | .ok settings => .ok settings
    | .error problems => .error (.rejected problems)

/-- What is said while settings are loaded from explicit values and the surroundings. -/
def Settings.notices (s : Surroundings) (explicit : Mapping Value) : List String :=
  match refuseNames "BaseSettings.__init__" ["__pydantic_self__"] explicit.toList with
  | .error _ => []
  | .ok _ => s.envNotices explicit

def textKeys? (entries : List (Value × Value)) : Option (List (String × Value)) :=
  entries.mapM fun entry =>
    match entry.1 with
    | .str name => some (name, entry.2)
    | _ => none

/-- The dictionary of a file with explicit values written over it. Absent explicit values are
passed over. -/
def overridden (entries : List (Value × Value)) (explicit : List (String × Value)) :
    List (Value × Value) :=
  explicit.foldl
    (fun built entry =>
      match entry.2 with
      | .none => built
      | v => Value.insertEntry built (.str entry.1) v)
    entries

def invalidConfig (path : String) (v : Value) (message : Option String) : Except ConfigError Fault :=
  if v.isWritable then .ok (Fault.invalidConfig path v message) else .error (.number .unwritable)

/-- The mapping that a configuration file holds. A file without content counts as an empty
mapping. -/
def fileEntries (path text : String) : Except ConfigError (List (Value × Value)) :=
  match Yaml.load (String.ofList (Text.unixNewlines text.toList)) with
  | .error .malformed => .error (.fault (Fault.invalidConfig path (.str "<unparseable>")))
  | .error e => .error (.yaml e)
  | .ok data =>
    if data.isFalsy then .ok []
    else
      match data with
      | .dict entries => .ok entries
      | v => do
        let f ← invalidConfig path v (some ("Config file " ++ path ++ " must contain a mapping"))
        .error (.fault f)

/-- The dictionary of a configuration file with explicit values written over it, and the same by
texts. The path is in its normal form. -/
def configuration (s : Surroundings) (path : String) (explicit : List (String × Value)) :
    Except ConfigError (List (Value × Value) × Mapping Value) := do
  refuseNames "SymrefSettings.from_yaml" ["cls", "yaml_path"] explicit
  match s.files.find path with
  | .error e =>
    if e.isAbsence then
      .error (.fault (Fault.missingConfig path (some ("Config file not found: " ++ path))))
    else .error (.file e)
  | .ok .directory => .error (.file (.isADirectory path))
  | .ok (.file text) =>
    let merged := overridden (← fileEntries path text) explicit
    match textKeys? merged with
    | none => .error .nonTextKey
    | some named => return (merged, Mapping.ofList named)

def Settings.fromFile (s : Surroundings) (path : String) (explicit : List (String × Value)) :
    Except ConfigError Settings := do
  let path := normalPath path
  let (merged, named) ← configuration s path explicit
  match Settings.fromSurroundings s named with
  | .error (.rejected problems) =>
    .error (.rejectedFile (← invalidConfig path (.dict merged) none) problems)
  | result => result

/-- What is said while settings are loaded from a configuration file. Nothing is said when the file
cannot be read. -/
def Settings.fileNotices (s : Surroundings) (path : String) (explicit : List (String × Value)) :
    List String :=
  match configuration s (normalPath path) explicit with
  | .error _ => []
  | .ok (_, named) => Settings.notices s named

/-- Settings from explicit values, a configuration file if one is named, and the surroundings. -/
def Settings.find (s : Surroundings) (explicit : List (String × Value)) (file : Option String) :
    Except ConfigError Settings :=
  match file with
  | some path => Settings.fromFile s path explicit
  | none => Settings.fromSurroundings s (Mapping.ofList explicit)

/-- What is said while settings are loaded. -/
def Settings.findNotices (s : Surroundings) (explicit : List (String × Value))
    (file : Option String) : List String :=
  match file with
  | some path => Settings.fileNotices s path explicit
  | none => Settings.notices s (Mapping.ofList explicit)

end SymbolReference

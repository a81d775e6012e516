import SymbolReference.Config.Argument
import SymbolReference.Encoding.Scheme
import SymbolReference.Files

/-!
Where settings are looked for.

Some explicit values are no settings: they say how variables are named, which files of variables are
read and how, where secrets lie, and which arguments are given. The names of these values start with
an underscore. What is said about files of variables on the way stays said when the search fails
later.
-/

namespace SymbolReference

/-- The surroundings of a run: the environment variables, the files, and the name of the program
with its arguments. -/
structure Surroundings where
  environment : Mapping String := Mapping.empty
  files : Files := {}
  program : String := ""
  arguments : List String := []

/-- Why settings cannot be looked for. `exit` ends the program with a code, after an output or a
notice. -/
inductive LookupError where
  | notIterable (v : Value)
  | notUnpackable (v : Value)
  | partCount (found : Nat)
  | notCallable (v : Value)
  | notAPath (v : Value)
  | noHome
  | file (e : FileError)
  | noLength (v : Value)
  | noVariable (source : String)
  | notSubtractable (v : Value)
  | notComparable (v : Value)
  | encodingName (v : Value)
  | nullInName
  | unknownEncoding (name : String)
  | notTextEncoding (name : String)
  | encoding (e : Encoding.EncodingError)
  | secretsNotADirectory
  | notArguments (v : Value)
  | notAnArgument (v : Value)
  | flags (e : FlagSetupError)
  | signs (e : SignError)
  | foreign (e : ForeignArgument)
  | arguments (e : ArgumentError)
  | list (name : String) (e : Flag.MergeError)
  | unusualUsage
  | notLower (v : Value)
  | exit (code : Nat) (output notice : String)

/-- The message about settings that cannot be looked for. -/
def LookupError.message : LookupError → String
  | notIterable v => "'" ++ v.typeName ++ "' object is not iterable"
  | notUnpackable v => "cannot unpack non-iterable " ++ v.typeName ++ " object"
  | partCount found =>
    if found < 2 then
      "not enough values to unpack (expected 2, got " ++ String.ofList (Decimal.natDigits found) ++
        ")"
    else "too many values to unpack (expected 2)"
  | notCallable v => "'" ++ v.typeName ++ "' object is not callable"
  | notAPath v =>
    match v with
    | .bytes _ =>
      "argument should be a str object or an os.PathLike object returning str, not " ++
        v.typeDisplay
    | v => "expected str, bytes or os.PathLike object, not " ++ v.typeName
  | noHome => "Could not determine home directory."
  | file e => e.message
  | noLength v => "object of type '" ++ v.typeName ++ "' has no len()"
  | noVariable source =>
    "error getting value for field \"include_all\" from source \"" ++ source ++ "\""
  | notSubtractable v => "unsupported operand type(s) for -: '" ++ v.typeName ++ "' and 'int'"
  | notComparable v =>
    "'<=' not supported between instances of '" ++ v.typeName ++ "' and 'int'"
  | encodingName v => "open() argument 'encoding' must be str or None, not " ++ v.typeName
  | nullInName => "embedded null character"
  | unknownEncoding name => "unknown encoding: " ++ name
  | notTextEncoding name =>
    "'" ++ name ++ "' is not a text encoding; use codecs.open() to handle arbitrary codecs"
  | encoding e => e.message
  | secretsNotADirectory => "secrets_dir must reference a directory, not a file"
  | notArguments v =>
    "cli_parse_args must be a list or tuple of strings, received " ++ v.typeDisplay
  | notAnArgument v =>
    match v with
    | .bytes _ => "cannot use a string pattern on a bytes-like object"
    | v => "expected string or bytes-like object, got '" ++ v.typeName ++ "'"
  | flags e => e.message
  | signs e => e.message
  | foreign e => e.message
  | arguments e => "error parsing CLI: " ++ e.message
  | list name e => "Parsing error encountered for " ++ name ++ ": " ++ e.message
  | unusualUsage => ""
  | notLower v => "'" ++ v.typeName ++ "' object has no attribute 'lower'"
  | exit code _ _ => String.ofList (Decimal.natDigits code)

/-- A search for settings. What is said on the way is kept. -/
abbrev Search := ExceptT LookupError (StateM (List String))

def Search.say (notices : List String) : Search Unit :=
  modify fun said => said ++ notices

def envFileName : String := ".env"

/-- What stands before the name of a setting in the name of its variable. -/
inductive NameStart where
  | text (s : String)
  | unusable (v : Value)

/-- The start of the names of variables. Anything with a length is taken, and only texts can be
used. -/
def nameStart (explicit : Mapping Value) : Except LookupError NameStart :=
  match given? explicit "_env_prefix" with
  | none => .ok (.text ({} : VariableRules).start)
  | some v =>
    match v.text? with
    | some start => .ok (.text start)
    | none => if v.hasLength then .ok (.unusable v) else .error (.noLength v)

def namesStart (explicit : Mapping Value) : Bool :=
  match given? explicit "_env_prefix_target" with
  | none => true
  | some v => v.text? = some "variable" || v.text? = some "all"

/-- Check the number of parts that a name may be split into. -/
def checkSplit (explicit : Mapping Value) : Except LookupError Unit :=
  match given? explicit "_env_nested_max_split" with
  | none => .ok ()
  | some v =>
    match v with
    | .bool _ | .int _ | .float _ | .complex _ _ => .ok ()
    | v => if v.isFalsy then .ok () else .error (.notSubtractable v)

/-- How variables are looked up. A start that cannot be used makes the first source fail that needs
it. -/
def VariableRules.ofExplicit (explicit : Mapping Value) (start : NameStart) :
    Except LookupError VariableRules := do
  let exactCase := holds explicit "_case_sensitive"
  let started := namesStart explicit
  let start ←
    match start with
    | .text start => .ok start
    | .unusable v =>
      match started, exactCase, v with
      | true, _, _ => .error (LookupError.noVariable "EnvSettingsSource")
      | false, false, .bytes _ | false, true, _ => .ok ""
      | false, false, v => .error (.notLower v)
  return {
    exactCase
    start
    started
    ignoreEmpty := holds explicit "_env_ignore_empty"
    noneText := (given? explicit "_env_parse_none_str").bind Value.text? }

def readPath (v : Value) : Except LookupError String :=
  match v with
  | .str path => .ok (normalPath path)
  | .kind k => .ok ("SymbolKind." ++ k.capitals)
  | v => .error (.notAPath v)

/-- The values that must be paths: a text is one path, and anything else is gone through. -/
def pathValues (v : Value) : Except LookupError (List Value) :=
  match v.text?, v.items? with
  | some _, _ => .ok [v]
  | none, some items => .ok items
  | none, none => .error (.notIterable v)

/-- A path whose first part is a tilde starts at the directory that the environment names as home.
The homes of others are not known. -/
def Surroundings.expandHome (s : Surroundings) (path : String) :
    Except LookupError (Option String) :=
  match pathParts path with
  | "~" :: others =>
    .ok ((s.environment.get? "HOME").map fun home =>
      normalPath ((if home.isEmpty then "/" else home) ++ "/" ++ String.intercalate "/" others))
  | first :: _ =>
    if first.startsWith "~" && !path.startsWith "/" then .error .noHome else .ok (some path)
  | [] => .ok (some path)

/-- What a path leads to, if it is there. -/
def Surroundings.find? (s : Surroundings) (v : Value) :
    Except LookupError (Option (String × PathTarget)) := do
  match ← s.expandHome (← readPath v) with
  | none => return none
  | some path =>
    match s.files.find path with
    | .ok found => return some (path, found)
    | .error e => if e.isAbsence then return none else throw (.file e)

/-- The files of variables that are read. Without a word on them it is the usual one. -/
def envFileValues (explicit : Mapping Value) : Except LookupError (List Value) :=
  match explicit.get? "_env_file" with
  | none => .ok [.str envFileName]
  | some .none => .ok []
  | some v => pathValues v

/-- Check how far above the working directory files of variables are looked for. Nothing is there to
be found. -/
def checkDepth (explicit : Mapping Value) : Except LookupError Unit :=
  match given? explicit "_env_file_depth" with
  | none | some (.bool _) | some (.int _) | some (.float _) => .ok ()
  | some v => .error (.notComparable v)

/-- The text of a file of variables in the encoding that is asked for. -/
def readEncoded (explicit : Mapping Value) (text : String) : Except LookupError String :=
  match (given? explicit "_env_file_encoding").filter fun v => !v.isFalsy with
  | none => .ok text
  | some v =>
    match v.text? with
    | none => .error (.encodingName v)
    | some name =>
      if name.toList.contains '\x00' then .error .nullInName
      else
        match Encoding.Scheme.ofName? name with
        | none => .error (.unknownEncoding name)
        | some .notText => .error (.notTextEncoding name)
        | some scheme => (scheme.read text).mapError .encoding

/-- What is said about a statement of a file of variables that fits no rule. -/
def faultNotice (line : Nat) : String :=
  "python-dotenv could not parse statement starting at line " ++
    String.ofList (Decimal.natDigits line)

def Surroundings.envVariables (s : Surroundings) (explicit : Mapping Value) (v : Value) :
    Search (Mapping (Option String)) := do
  let found ← s.find? v
  checkDepth explicit
  match found with
  | some (_, .file text) =>
    let text ← readEncoded explicit text
    Search.say ((EnvFile.faultLines text).map faultNotice)
    return EnvFile.read s.environment text
  | _ => return Mapping.empty

/-- The variables of all files, each file as it stands. -/
def Surroundings.envFiles (s : Surroundings) (explicit : Mapping Value) :
    Search (List (Mapping (Option String))) := do
  (← envFileValues explicit).mapM (s.envVariables explicit)

/-- The texts of arguments. Nothing and zero count as empty texts. -/
def argumentTexts (items : List Value) : Except LookupError (List String) :=
  items.mapM fun v =>
    match v.text? with
    | some text => .ok text
    | none => if v.isFalsy then .ok "" else .error (.notAnArgument v)

/-- The width of the terminal, less a margin. -/
def Surroundings.pageWidth (s : Surroundings) : Int :=
  let columns :=
    match (s.environment.get? "COLUMNS").map fun text => Decimal.readWhole 10 text.toList with
    | some (.ok n) => if 0 < n then n else 80
    | _ => 80
  columns - 2

def Surroundings.flagPage (s : Surroundings) (explicit : Mapping Value) : FlagPage where
  width := s.pageWidth
  program := (((given? explicit "_cli_prog_name").map Value.bare).getD s.program).toList
  description := settingsDescription.toList

/-- End the program with the help. -/
def Surroundings.helpExit (s : Surroundings) (explicit : Mapping Value)
    (t : FlagTable SettingName) : LookupError :=
  match (s.flagPage explicit).help? t.flags with
  | some help => .exit 0 (String.ofList help) ""
  | none => .unusualUsage

/-- End the program because of an error in its arguments, unless it shall go on to report it. -/
def Surroundings.argumentExit (s : Surroundings) (explicit : Mapping Value)
    (t : FlagTable SettingName) (e : ArgumentError) : LookupError :=
  if (given? explicit "_cli_exit_on_error").any Value.isFalsy then .arguments e
  else
    let page := s.flagPage explicit
    match page.usageText? t.flags with
    | some usage =>
      .exit 2 "" (String.ofList (usage ++ page.program) ++ ": error: " ++ e.message ++ "\n")
    | none => .unusualUsage

def Surroundings.readArguments (s : Surroundings) (explicit : Mapping Value)
    (t : FlagTable SettingName) (arguments : List Value) :
    Except LookupError (List (SettingName × Value)) := do
  let arguments : List Value ←
    if exactFlags explicit then pure arguments
    else
      let texts ← (lowerFlags t (← argumentTexts arguments)).mapError LookupError.signs
      pure (texts.map Value.str)
  match t.read (holds explicit "_cli_ignore_unknown_args") arguments with
  | .ok settings => return settings
  | .error .help => throw (s.helpExit explicit t)
  | .error (.foreign e) => throw (.foreign e)
  | .error (.error e) => throw (s.argumentExit explicit t e)

/-- The value of a setting that an argument gives. A list becomes a text, and the text for nothing
becomes nothing. -/
def argumentValue (noneText : Option String) (name : String) (v : Value) :
    Except LookupError Value := do
  let v ←
    match v with
    | .list items =>
      let texts := (items.takeWhile fun v => v.text?.isSome).filterMap Value.text?
      match Flag.mergedList noneText (texts.map String.toList) with
      | .ok text => .ok (Value.str (String.ofList text))
      | .error e => .error (LookupError.list name e)
    | v => .ok v
  return if v.text?.isSome && v.text? = noneText then .none else v

/-- The settings that arguments give. The last value of a setting counts, and nothing at all counts
as not given. -/
def argumentValues (explicit : Mapping Value) (start : String)
    (given : List (SettingName × Value)) : Except LookupError (List (SettingName × Value)) := do
  let noneText := (argumentNone explicit).text?
  let found := SettingName.all.filterMap fun name =>
    match given.reverse.lookup name with
    | none | some .none => none
    | some v => some (name, v)
  found.mapM fun (name, v) => do
    return (name, ← argumentValue noneText (start ++ name.text) v)

def Surroundings.argumentSettings (s : Surroundings) (explicit : Mapping Value) :
    Except LookupError (List (SettingName × Value)) := do
  match given? explicit "_cli_parse_args" with
  | none => return []
  | some v =>
    let table ← (flagTable explicit).mapError .flags
    let start ← (flagStart explicit).mapError .flags
    let arguments ←
      match v with
      | .bool true => .ok (some (s.arguments.map Value.str))
      | .list items | .tuple items => .ok (some items)
      | v => if v.isNumber && v.isFalsy then .ok none else .error (LookupError.notArguments v)
    match arguments with
    | none => return []
    | some arguments => argumentValues explicit start (← s.readArguments explicit table arguments)

def checkFlagStart (explicit : Mapping Value) : Except LookupError Unit :=
  match given? explicit "_cli_parse_args", given? explicit "_cli_prefix" with
  | some _, some v => if v.text?.isSome then .ok () else .error (.noVariable "CliSettingsSource")
  | _, _ => .ok ()

/-- The secrets of a directory: the texts of its files without white space around them. A directory
that is not there has none. -/
def Surroundings.secretsIn (s : Surroundings) (v : Value) :
    Except LookupError (List (String × String)) := do
  match ← s.find? v with
  | none => return []
  | some (_, .file _) => throw .secretsNotADirectory
  | some (path, .directory) =>
    match s.files.place path with
    | .error _ => return []
    | .ok place =>
      return (s.files.filesIn place).map fun entry =>
        (entry.1, String.ofList (Text.trim (Text.unixNewlines entry.2.toList)))

def Surroundings.secrets (s : Surroundings) (explicit : Mapping Value) :
    Except LookupError (List (String × String)) := do
  match given? explicit "_secrets_dir" with
  | none => return []
  | some v => return (← (← pathValues v).mapM s.secretsIn).flatten

/-- Sources that are given ready-made, as a pair of which the first part lists them. None of them
can be used, so that only an empty list is a list of sources. -/
def readySources (v : Value) : Except LookupError Sources :=
  match v.items? with
  | none => .error (.notUnpackable v)
  | some [sources, _] =>
    if sources.isFalsy then .ok {}
    else
      match sources.items? with
      | none => .error (.notIterable sources)
      | some items => .error (.notCallable (items.headD .none))
  | some items => .error (.partCount items.length)

def Surroundings.search (s : Surroundings) (explicit : Mapping Value) : Search Sources := do
  match given? explicit "_build_sources" with
  | some v => readySources v
  | none =>
    -- The first of these that fails decides what is reported.
    checkSplit explicit
    let start ← nameStart explicit
    let envFiles ← s.envFiles explicit
    let arguments ← s.argumentSettings explicit
    checkFlagStart explicit
    let rules ← VariableRules.ofExplicit explicit start
    let secrets ← s.secrets explicit
    return {
      rules
      arguments
      explicit
      environment := rules.compared
        (Mapping.ofList (s.environment.toList.map fun entry => (entry.1, some entry.2)))
      envFiles := envFiles.foldl (fun built found => built.update (rules.compared found).toList)
        Mapping.empty
      secrets := Mapping.ofList (secrets.map fun entry => (rules.key entry.1, entry.2)) }

/-- The sources of settings in some surroundings, or why they cannot be found. -/
def Surroundings.sources (s : Surroundings) (explicit : Mapping Value) :
    Except LookupError Sources :=
  ((s.search explicit).run []).1

/-- What is said while the sources of settings are found. -/
def Surroundings.envNotices (s : Surroundings) (explicit : Mapping Value) : List String :=
  ((s.search explicit).run []).2

end SymbolReference

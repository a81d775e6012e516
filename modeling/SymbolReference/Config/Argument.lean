import SymbolReference.Config.Settings
import SymbolReference.Flag.Merge
import SymbolReference.Flag.Reader
import SymbolReference.Flag.Usage
import SymbolReference.Text.Identifier

namespace SymbolReference

def given? (explicit : Mapping Value) (name : String) : Option Value :=
  match explicit.get? name with
  | none | some .none => none
  | some v => some v

def holds (explicit : Mapping Value) (name : String) : Bool :=
  (given? explicit name).any fun v => !v.isFalsy

def Value.hasLength (v : Value) : Bool :=
  match v with
  | .str _ | .kind _ | .bytes _ | .list _ | .tuple _ | .set _ | .frozenset _ | .dict _
  | .range _ _ _ | .cycle _ => true
  | .none | .bool _ | .int _ | .float _ | .complex _ _ | .ellipsis | .day _ | .moment _
  | .object _ => false

def Value.isNumber (v : Value) : Bool :=
  match v with
  | .bool _ | .int _ | .float _ | .complex _ _ => true
  | _ => false

def SettingName.all : List SettingName :=
  [.includeAll, .outputFormat, .searchable, .scriptSource, .showTags, .showLocations, .logLevel,
    .jsonLogs]

/-- The kinds of values of a setting besides nothing. -/
def SettingName.choices : SettingName → List String
  | includeAll | searchable | showTags | showLocations | jsonLogs => ["bool"]
  | outputFormat => ["html", "markdown"]
  | scriptSource | logLevel => ["str"]

/-- Whether a setting may be nothing. -/
def SettingName.isOptional : SettingName → Bool
  | scriptSource | jsonLogs => true
  | includeAll | outputFormat | searchable | showTags | showLocations | logLevel => false

def SettingName.defaultSwitch? : SettingName → Option Bool
  | includeAll | searchable => some false
  | showTags | showLocations => some true
  | outputFormat | scriptSource | logLevel | jsonLogs => none

def SettingName.defaultText (noneText : String) : SettingName → String
  | includeAll | searchable => "False"
  | outputFormat => "html"
  | showTags | showLocations => "True"
  | logLevel => "INFO"
  | scriptSource | jsonLogs => noneText

def SettingName.help (noneText : String) (name : SettingName) : String :=
  let start := if name = .logLevel then "Structlog log level " else ""
  start ++ "(default: " ++ name.defaultText noneText ++ ")"

def settingsDescription : String :=
  "Settings for building and rendering a reference document.\n\n" ++
  "    Fields\n" ++
  "    ──────\n" ++
  "    include_all    : Keep host built-ins, not only user-defined symbols\n" ++
  "    output_format  : ``html`` or ``markdown``\n" ++
  "    searchable     : Emit the search input (HTML)\n" ++
  "    script_src     : Script referenced by the trailer (HTML, None = no trailer)\n" ++
  "    show_tags      : Emit comment tags under each symbol\n" ++
  "    show_locations : Emit file/line locations\n" ++
  "    log_level      : Structlog log level\n" ++
  "    json_logs      : JSON log lines (None = auto, JSON when stderr is not a tty)\n"

/-- Why the flags of the settings cannot be set up. -/
inductive FlagSetupError where
  | notRepeatable (v : Value)
  | noMembers (v : Value)
  | byteSigns
  | noSign (v : Value)
  | badSpelling (spelling : String) (signs : Value)
  | badStart (start : String)
  | byteStart
  | noAttribute (v : Value) (name : String)
  | noLength (v : Value)
  | notIterable (v : Value)
  | notJoined (index : Nat) (v : Value)
  | conflict (e : FlagConflict)

def FlagSetupError.message : FlagSetupError → String
  | notRepeatable v => "unsupported operand type(s) for *: '" ++ v.typeName ++ "' and 'int'"
  | noMembers v => "argument of type '" ++ v.typeName ++ "' is not iterable"
  | byteSigns => "a bytes-like object is required, not 'str'"
  | noSign v => (if v.text?.isSome then "string" else v.typeName) ++ " index out of range"
  | badSpelling spelling signs =>
    "invalid option string " ++ Text.quote spelling ++ ": must start with a character " ++
      signs.written
  | badStart start => "CLI settings source prefix is invalid: " ++ start
  | byteStart => "startswith first arg must be bytes or a tuple of bytes, not str"
  | noAttribute v name => "'" ++ v.typeName ++ "' object has no attribute '" ++ name ++ "'"
  | noLength v => "object of type '" ++ v.typeName ++ "' has no len()"
  | notIterable v => "'" ++ v.typeName ++ "' object is not iterable"
  | notJoined index v => (ForeignArgument.notJoined index v).message
  | conflict e => e.message

/-- The value whose text stands for nothing: the one for variables, else the one for arguments, else
a usual one. -/
def argumentNone (explicit : Mapping Value) : Value :=
  let usual := Value.str (match explicit.get? "_cli_avoid_json" with
    | some (.bool true) => "None"
    | _ => "null")
  (["_env_parse_none_str", "_cli_parse_none_str"].findSome? fun name =>
    (given? explicit name).filter fun v => !v.isFalsy).getD usual

/-- The signs that flags start with, which must at least be repeatable. -/
def flagSigns (explicit : Mapping Value) : Except FlagSetupError Value :=
  match given? explicit "_cli_flag_prefix_char" with
  | none => .ok (.str "-")
  | some v =>
    match v with
    | .str _ | .kind _ | .bytes _ | .list _ | .tuple _ => .ok v
    | v => if v.isNumber then .ok v else .error (.notRepeatable v)

/-- What stands before the names of flags. It is a name, perhaps with points in it, and a point
follows it. -/
def flagStart (explicit : Mapping Value) : Except FlagSetupError String :=
  match given? explicit "_cli_prefix" with
  | none => .ok ""
  | some v =>
    if v.isFalsy then
      if v.text?.isSome then .ok "" else if v.hasLength then .ok v.bare else .error (.noLength v)
    else
      match v, v.text? with
      | _, some start =>
        if start.startsWith "." || start.endsWith "." ||
            !Text.isName (start.toList.filter (· ≠ '.')) then .error (.badStart start)
        else .ok (start ++ ".")
      | .bytes _, none => .error .byteStart
      | v, none => .error (.noAttribute v "startswith")

/-- The signs of a table of flags. A text of them is needed. -/
def tableSigns (signs : Value) : Except FlagSetupError (List Char) :=
  match signs, signs.text? with
  | _, some text => if text.isEmpty then .error (.noSign signs) else .ok text.toList
  | .bytes _, none => .error .byteSigns
  | .list items, none =>
    if items.isEmpty then .error (.noSign signs)
    else .error (.badSpelling ((Value.list (items.take 1)).written ++ "h") signs)
  | .tuple items, none =>
    if items.isEmpty then .error (.noSign signs)
    else .error (.badSpelling ((Value.tuple (items.take 1)).written ++ "h") signs)
  | v, none => .error (.noMembers v)

/-- How the flag of a name is spelled: one sign before a single character, and two before more. -/
def spelling (signs : List Char) (denied : Bool) (name : String) : String :=
  let start := signs ++ signs ++ (if denied then "no-".toList else [])
  String.ofList (if name.length = 1 then start.take 1 else start) ++ name

def placeholder (explicit : Mapping Value) (name : SettingName) : Except FlagSetupError String := do
  let noneChoice ←
    if name.isOptional && !holds explicit "_cli_hide_none_type" then
      match argumentNone explicit with
      | .str text => .ok [text]
      | .kind k => .ok [k.label]
      | v => .error (.notJoined name.choices.length v)
    else .ok []
  let choices := name.choices ++ noneChoice
  let joined := String.intercalate "," choices
  let shown := if choices.length = 1 then joined else "\x7b" ++ joined ++ "\x7d"
  return String.intercalate "," (shown.splitOn ", ")

/-- Whether underscores in names become hyphens. -/
def usesHyphens (explicit : Mapping Value) : Bool :=
  match given? explicit "_cli_kebab_case" with
  | none => false
  | some v => !(v.isNumber && v.isFalsy)

/-- The names that a value gives: one text, or several. -/
def givenNames (v : Value) : Except FlagSetupError (List String) :=
  match v.text?, v.items? with
  | some text, _ => .ok [text]
  | none, none => .error (.notIterable v)
  | none, some items => items.mapM fun item =>
    match item.text? with
    | some text => .ok text
    | none => if item.hasLength then .ok item.bare else .error (.noLength item)

/-- Names with the further names that are given for them and not taken. Further names may have
further names in turn. -/
def withFurtherNames (explicit : Mapping Value) (taken names : List String) :
    Except FlagSetupError (List String) :=
  match (given? explicit "_cli_shortcuts").filter fun v => !v.isFalsy with
  | none => .ok names
  | some (.dict entries) => entries.foldlM
    (fun names (target, further) => do
      if target.text?.any names.contains then
        return names ++ (← givenNames further).filter fun n => !taken.contains n
      else return names)
    names
  | some v => .error (.noAttribute v "items")

def flagAction (explicit : Mapping Value) (name : SettingName) (shown : String) :
    FlagAction SettingName × Bool :=
  let isSwitch := shown = "bool" && holds explicit "_cli_implicit_flags"
  let toggles := (given? explicit "_cli_implicit_flags").bind Value.text? = some "toggle"
  match isSwitch, if toggles then name.defaultSwitch? else none with
  | false, _ => (.store name shown, false)
  | true, none => (.dual name, false)
  | true, some value => (.set name !value, value)

/-- The flag of a setting whose names are not taken, if any are left. -/
def settingFlag? (explicit : Mapping Value) (signs : List Char) (start : String)
    (taken : List String) (name : SettingName) :
    Except FlagSetupError (Option (Flag SettingName × List String)) := do
  let shown ← placeholder explicit name
  let full := start ++ name.text
  let own := if usesHyphens explicit then String.intercalate "-" (full.splitOn "_") else full
  let names ← withFurtherNames explicit taken (if taken.contains own then [] else [own])
  if names.isEmpty || taken.contains full then return none
  else
    let (action, denied) := flagAction explicit name shown
    let spellings := names.map (spelling signs denied)
    let spellings :=
      match action with
      | .dual _ => Flag.dualSpellings spellings
      | _ => spellings
    let help := name.help (argumentNone explicit).bare
    return some ({ spellings, action, help }, names)

def flagTable (explicit : Mapping Value) : Except FlagSetupError (FlagTable SettingName) := do
  let signs ← flagSigns explicit
  let start ← flagStart explicit
  let signs ← tableSigns signs
  let doubled := String.ofList ((signs ++ signs).take 2)
  let help : Flag SettingName :=
    { spellings := [String.ofList (signs.take 1) ++ "h", doubled ++ "help"]
      action := .help
      help := "show this help message and exit" }
  let table : FlagTable SettingName := { signs, flags := [help] }
  let (table, _) ← SettingName.all.foldlM
    (fun (table, taken) name => do
      match ← settingFlag? explicit signs start taken name with
      | none => return (table, taken)
      | some (flag, names) =>
        return (← (table.add flag).mapError .conflict, taken ++ names))
    (table, ([] : List String))
  return table

/-- Whether the case of flags counts. -/
def exactFlags (explicit : Mapping Value) : Bool :=
  match given? explicit "_case_sensitive" with
  | none | some (.bool false) => false
  | some _ => true

/-- Why the signs of flags make no pattern. In the pattern a backslash stands before them and a
repetition after them, so that letters and digits there have meanings of their own. -/
inductive SignError where
  | badEscape (sign : Char)
  | incompleteEscape (sign : Char)
  | unknownName
  | noGroup (number : Char)
  | openGroup
  | notRepeatable
  | repeatedTwice (position : Nat)
deriving Repr, DecidableEq

def SignError.message : SignError → String
  | badEscape sign => "bad escape \\" ++ String.ofList [sign] ++ " at position 2"
  | incompleteEscape sign => "incomplete escape \\" ++ String.ofList [sign] ++ " at position 2"
  | unknownName => "undefined character name '1,2' at position 2"
  | noGroup number => "invalid group reference " ++ String.ofList [number] ++ " at position 3"
  | openGroup => "cannot refer to an open group at position 2"
  | notRepeatable => "nothing to repeat at position 4"
  | repeatedTwice position =>
    "multiple repeat at position " ++ String.ofList (Decimal.natDigits position)

/-- The characters that a single sign stands for in the pattern. No flag starts with one of the
characters that a letter for a class stands for, except for word characters. -/
def signClass (sign : Char) : Except SignError (Char → Bool) :=
  if sign = 'w' then .ok Text.isWordChar
  else if "0aDdfnrSstvW".toList.contains sign then .ok fun _ => false
  else if "ABbZ".toList.contains sign then .error .notRepeatable
  else if "Uux".toList.contains sign then .error (.incompleteEscape sign)
  else if sign = 'N' then .error .unknownName
  else if sign = '1' then .error .openGroup
  else if sign.isDigit then .error (.noGroup sign)
  else if sign.isAlpha then .error (.badEscape sign)
  else .ok (· = sign)

/-- The characters that flags start with in the pattern: some that stand once, and those that stand
once or twice. -/
def signPattern (signs : List Char) : Except SignError (List Char × (Char → Bool)) :=
  match signs with
  | [sign] => return ([], ← signClass sign)
  | signs =>
    let last := signs.getLastD ' '
    if "*+?".toList.contains last then .error (.repeatedTwice (signs.length + 3))
    else return (signs.dropLast, (· = last))

/-- The flag that starts a text: signs, and then anything up to an equals sign or white space. -/
def leadingFlag? (once : List Char) (isSign : Char → Bool) (s : List Char) : Option (List Char) :=
  if !Text.startsWith s once then none
  else
    let rest := s.drop once.length
    [2, 1].findSome? fun count =>
      let name := (rest.drop count).takeWhile fun c => c ≠ '=' && !Text.isBlank c
      if (rest.take count).length = count && (rest.take count).all isSign && !name.isEmpty then
        some (once ++ rest.take count ++ name)
      else none

/-- An argument whose flag is known in lower case, with that flag. What follows the flag ends at a
line feed. -/
def lowerFlag (t : FlagTable SettingName) (once : List Char) (isSign : Char → Bool)
    (argument : String) : String :=
  match leadingFlag? once isSign argument.toList with
  | none => argument
  | some flag =>
    let lowered := String.ofList (Text.lower flag)
    if t.spellings.contains lowered then
      lowered ++ String.ofList ((argument.toList.drop flag.length).takeWhile (· ≠ '\n'))
    else argument

def lowerFlags (t : FlagTable SettingName) (arguments : List String) :
    Except SignError (List String) := do
  if arguments.isEmpty then return []
  let (once, isSign) ← signPattern t.signs
  let flags := arguments.takeWhile (· ≠ "--")
  return flags.map (lowerFlag t once isSign) ++ arguments.drop flags.length

end SymbolReference

import SymbolReference.Config.File
import SymbolReference.Proofs.Mapping
import SymbolReference.Proofs.Outcome
import SymbolReference.Proofs.Text.Case

namespace SymbolReference

/-- The names of explicit values that say how settings are looked for, and the one that the function
which looks for them has for itself. -/
def reservedNames : List String :=
  ["__pydantic_self__", "_build_sources", "_env_nested_max_split", "_env_prefix",
    "_env_prefix_target", "_case_sensitive", "_env_ignore_empty", "_env_parse_none_str", "_env_file",
    "_env_file_depth", "_env_file_encoding", "_cli_parse_args", "_secrets_dir"]

/-- Whether no explicit value has a reserved name. -/
def Unreserved (explicit : Mapping Value) : Prop :=
  ∀ name ∈ reservedNames, explicit.get? name = none

namespace Unreserved

variable {explicit : Mapping Value}

theorem given?_eq_none (h : Unreserved explicit) {name : String} (hname : name ∈ reservedNames) :
    given? explicit name = none := by
  rw [given?, h name hname]

theorem empty : Unreserved Mapping.empty :=
  fun _ _ => rfl

end Unreserved

/-- The file of variables is read in the same way under all explicit values without reserved
names. -/
theorem Surroundings.envVariables_eq (s : Surroundings) {explicit : Mapping Value}
    (h : Unreserved explicit) (v : Value) :
    s.envVariables explicit v = s.envVariables Mapping.empty v := by
  have hdepth : checkDepth explicit = .ok () := by
    rw [checkDepth, h.given?_eq_none (by decide)]
  have hencoded : ∀ text, readEncoded explicit text = .ok text := by
    intro text
    rw [readEncoded, h.given?_eq_none (by decide)]
    rfl
  unfold Surroundings.envVariables
  rw [hdepth]
  simp only [hencoded]
  rfl

theorem Search.liftM_ok {α : Type} (a : α) :
    (liftM (Except.ok a : Except LookupError α) : Search α) = pure a := rfl

/-- What is found in some surroundings, given the variables of the usual file. -/
def Surroundings.usualSources (s : Surroundings) (explicit : Mapping Value)
    (found : Mapping (Option String)) : Sources :=
  let rules : VariableRules := {}
  { explicit
    environment := rules.compared
      (Mapping.ofList (s.environment.toList.map fun entry => (entry.1, some entry.2)))
    envFiles := Mapping.empty.update (rules.compared found).toList }

/-- Without reserved names the environment and the usual file of variables are looked
at. -/
theorem Surroundings.search_eq (s : Surroundings) {explicit : Mapping Value}
    (h : Unreserved explicit) :
    s.search explicit =
      s.usualSources explicit <$> s.envVariables Mapping.empty (.str envFileName) := by
  have hnone : ∀ name, name ∈ reservedNames → given? explicit name = none :=
    fun name hname => h.given?_eq_none hname
  -- Each stage of the search reads reserved names of its own, all of which are absent.
  have hsplit : checkSplit explicit = .ok () := by
    rw [checkSplit, hnone _ (by decide)]
  have hstart : nameStart explicit = .ok (.text "SYMREF_") := by
    rw [nameStart, hnone _ (by decide)]
  have hfiles : s.envFiles explicit =
      [Value.str envFileName].mapM (s.envVariables Mapping.empty) := by
    rw [Surroundings.envFiles, envFileValues, h _ (by decide),
      funext (s.envVariables_eq h)]
    rfl
  have harguments : s.argumentSettings explicit = .ok [] := by
    rw [Surroundings.argumentSettings, hnone _ (by decide)]
    rfl
  have hflags : checkFlagStart explicit = .ok () := by
    rw [checkFlagStart, hnone _ (by decide)]
  have hrules : VariableRules.ofExplicit explicit (.text "SYMREF_") = .ok {} := by
    rw [VariableRules.ofExplicit, holds, holds, namesStart, hnone _ (by decide),
      hnone _ (by decide), hnone _ (by decide), hnone _ (by decide)]
    rfl
  have hsecrets : s.secrets explicit = .ok [] := by
    rw [Surroundings.secrets, hnone _ (by decide)]
    rfl
  rw [Surroundings.search, hnone _ (by decide), hsplit, hstart, hfiles, harguments, hflags,
    hsecrets]
  simp only [Search.liftM_ok, List.mapM_cons, List.mapM_nil, pure_bind, bind_assoc, hrules,
    map_eq_pure_bind]
  rfl

/-- The variables of the usual file. The name of the program and its arguments have no part in
them. -/
def Surroundings.usualFile (s : Surroundings) : Except LookupError (Mapping (Option String)) :=
  ((s.envVariables Mapping.empty (.str envFileName)).run []).1

theorem Surroundings.sources_eq (s : Surroundings) {explicit : Mapping Value}
    (h : Unreserved explicit) :
    s.sources explicit = s.usualFile.map (s.usualSources explicit) := by
  rw [Surroundings.sources, s.search_eq h, ExceptT.run_map]
  rfl

theorem refuseNames_eq_ok_iff {function : String} {taken : List String}
    {explicit : List (String × Value)} :
    refuseNames function taken explicit = .ok () ↔ ∀ entry ∈ explicit, entry.1 ∉ taken := by
  rw [refuseNames]
  split
  case h_1 entry hfound =>
    have hcontains := List.find?_some hfound
    have htaken : entry.1 ∈ taken := List.contains_iff_mem.mp hcontains
    constructor
    · intro h
      cases h
    · intro h
      exact absurd htaken (h entry (List.mem_of_find?_eq_some hfound))
  case h_2 hnone =>
    refine ⟨fun _ entry hentry hmem => ?_, fun _ => rfl⟩
    exact List.find?_eq_none.mp hnone entry hentry (List.contains_iff_mem.mpr hmem)

theorem Unreserved.refuseNames_eq_ok {explicit : Mapping Value} (h : Unreserved explicit)
    (function : String) :
    refuseNames function ["__pydantic_self__"] explicit.toList = .ok () := by
  rw [refuseNames_eq_ok_iff]
  rintro entry hentry hname
  have hnone := h "__pydantic_self__" (by decide)
  rw [← List.mem_singleton.mp hname, Mapping.get?_eq_none_iff] at hnone
  exact hnone (List.mem_map_of_mem hentry)

theorem Settings.fromSurroundings_eq_ok_iff {s : Surroundings} {explicit : Mapping Value}
    (h : Unreserved explicit) {settings : Settings} :
    Settings.fromSurroundings s explicit = .ok settings ↔
      ∃ found, s.usualFile = .ok found ∧
        Settings.load (s.usualSources explicit found) = .ok settings := by
  rw [Settings.fromSurroundings, h.refuseNames_eq_ok, s.sources_eq h, bind_eq_ok_iff]
  rcases s.usualFile with e | found
  · simp [Except.map]
  · rcases hload : Settings.load (s.usualSources explicit found) with problems | loaded
    · simp [Except.map, hload]
    · simp [Except.map, hload]

theorem Settings.load_eq_ok_iff {sources : Sources} {s : Settings} :
    Settings.load sources = .ok s ↔
      sources.read .includeAll readBoolean false = .ok s.includeAll ∧
      sources.read .outputFormat readFormat .html = .ok s.outputFormat ∧
      sources.read .searchable readBoolean false = .ok s.searchable ∧
      sources.read .scriptSource (readOptional readText) none = .ok s.scriptSource ∧
      sources.read .showTags readBoolean true = .ok s.showTags ∧
      sources.read .showLocations readBoolean true = .ok s.showLocations ∧
      sources.read .logLevel readText "INFO" = .ok s.logLevel ∧
      sources.read .jsonLogs (readOptional readBoolean) none = .ok s.jsonLogs := by
  unfold Settings.load
  constructor
  · intro hload
    simp only at hload
    split at hload
    · cases hload
      simp_all
    · cases hload
  · rintro ⟨h₁, h₂, h₃, h₄, h₅, h₆, h₇, h₈⟩
    simp only [h₁, h₂, h₃, h₄, h₅, h₆, h₇, h₈]

/-- A setting read from its explicit value or, if it has none, as it is. -/
def readOver {α : Type} (explicit : Mapping Value) (name : SettingName)
    (read : Value → Except Misfit α) (current : α) : Except Misfit α :=
  match explicitValue? explicit name with
  | some v => read v
  | none => .ok current

theorem Surroundings.read_usualSources {α : Type} {s : Surroundings}
    {found : Mapping (Option String)} {name : SettingName} {read : Value → Except Misfit α}
    {default current : α}
    (h : (s.usualSources Mapping.empty found).read name read default = .ok current)
    (explicit : Mapping Value) :
    (s.usualSources explicit found).read name read default =
      readOver explicit name read current := by
  unfold readOver
  rcases hvalue : explicitValue? explicit name with _ | v
  · have hempty : explicitValue? Mapping.empty name = none := rfl
    have hsame : (s.usualSources explicit found).value? name =
        (s.usualSources Mapping.empty found).value? name := by
      simp only [Sources.value?, Surroundings.usualSources, hvalue, hempty]
    rw [← h, Sources.read, hsame, Sources.read]
  · simp [Sources.read, Sources.value?, Surroundings.usualSources, hvalue]

/-- Settings under explicit values, given those of the surroundings alone: each is its explicit
value or, if it has none, what it is in the surroundings. -/
theorem Settings.fromSurroundings_over {s : Surroundings} {base : Settings}
    (hbase : Settings.fromSurroundings s Mapping.empty = .ok base) {explicit : Mapping Value}
    (h : Unreserved explicit) {settings : Settings} :
    Settings.fromSurroundings s explicit = .ok settings ↔
      readOver explicit .includeAll readBoolean base.includeAll = .ok settings.includeAll ∧
      readOver explicit .outputFormat readFormat base.outputFormat = .ok settings.outputFormat ∧
      readOver explicit .searchable readBoolean base.searchable = .ok settings.searchable ∧
      readOver explicit .scriptSource (readOptional readText) base.scriptSource =
        .ok settings.scriptSource ∧
      readOver explicit .showTags readBoolean base.showTags = .ok settings.showTags ∧
      readOver explicit .showLocations readBoolean base.showLocations =
        .ok settings.showLocations ∧
      readOver explicit .logLevel readText base.logLevel = .ok settings.logLevel ∧
      readOver explicit .jsonLogs (readOptional readBoolean) base.jsonLogs =
        .ok settings.jsonLogs := by
  obtain ⟨found, hfound, hload⟩ :=
    (Settings.fromSurroundings_eq_ok_iff Unreserved.empty).mp hbase
  obtain ⟨h₁, h₂, h₃, h₄, h₅, h₆, h₇, h₈⟩ := Settings.load_eq_ok_iff.mp hload
  rw [← Surroundings.read_usualSources h₁, ← Surroundings.read_usualSources h₂,
    ← Surroundings.read_usualSources h₃, ← Surroundings.read_usualSources h₄,
    ← Surroundings.read_usualSources h₅, ← Surroundings.read_usualSources h₆,
    ← Surroundings.read_usualSources h₇, ← Surroundings.read_usualSources h₈,
    ← Settings.load_eq_ok_iff, Settings.fromSurroundings_eq_ok_iff h, hfound]
  simp

theorem SettingName.text_inj {setting name : SettingName} :
    setting.text = name.text ↔ setting = name := by
  constructor
  · intro h
    cases setting <;> cases name <;> first | rfl | exact absurd h (by decide)
  · rintro rfl
    rfl

theorem SettingName.lower_text (name : SettingName) :
    Text.lower name.text.toList = name.text.toList := by
  have hascii : Text.Ascii name.text.toList := by
    cases name <;> decide
  rw [Text.lower_ascii hascii]
  cases name <;> decide

theorem SettingName.text_notMem_reservedNames (name : SettingName) :
    name.text ∉ reservedNames := by
  cases name <;> decide

theorem unreserved_singleton (setting : SettingName) (v : Value) :
    Unreserved (Mapping.ofList [(setting.text, v)]) := by
  intro name hname
  rw [Mapping.get?_eq_none_iff]
  intro hmem
  have hsame : name = setting.text := List.mem_singleton.mp hmem
  exact setting.text_notMem_reservedNames (hsame ▸ hname)

theorem readOver_singleton {α : Type} (setting name : SettingName) (v : Value)
    (read : Value → Except Misfit α) (current : α) :
    readOver (Mapping.ofList [(setting.text, v)]) name read current =
      if setting = name then read v else .ok current := by
  have hvalue : explicitValue? (Mapping.ofList [(setting.text, v)]) name =
      if setting = name then some v else none := by
    have hentries : (Mapping.ofList [(setting.text, v)]).toList = [(setting.text, v)] := rfl
    rw [explicitValue?, hentries, List.find?_singleton, setting.lower_text]
    by_cases hname : setting = name
    · simp [hname]
    · have htext : setting.text.toList ≠ name.text.toList := fun h =>
        hname (SettingName.text_inj.mp (String.toList_inj.mp h))
      simp [hname, htext]
  rw [readOver, hvalue]
  split
  · simp_all
  · simp_all

theorem VariableRules.variable_usual (name : SettingName) :
    ({} : VariableRules).variable name = "symref_" ++ name.text := by
  have hascii : Text.Ascii ("SYMREF_" ++ name.text).toList := by
    cases name <;> decide
  have hlower : Text.lower ("SYMREF_" ++ name.text).toList = ("symref_" ++ name.text).toList := by
    rw [Text.lower_ascii hascii]
    cases name <;> decide
  have hvariable : ({} : VariableRules).variable name =
      String.ofList (Text.lower ("SYMREF_" ++ name.text).toList) := rfl
  rw [hvariable, hlower, String.ofList_toList]

/-- Where the variable of one setting is all there is, no other setting has a value. -/
theorem Sources.value?_variable (setting name : SettingName) (text : String) :
    Sources.value?
        { environment := Mapping.ofList [("symref_" ++ setting.text, some text)] } name =
      if setting = name then some (.str text) else none := by
  have hget : (Mapping.ofList [("symref_" ++ setting.text, some text)]).get?
      ("symref_" ++ name.text) = if setting = name then some (some text) else none := by
    change List.lookup _ [_] = _
    rw [List.lookup_cons]
    by_cases hname : setting = name
    · simp [hname]
    · have htext : "symref_" ++ name.text ≠ "symref_" ++ setting.text := by
        intro heq
        have hlists := congrArg String.toList heq
        rw [String.toList_append, String.toList_append] at hlists
        have hsame := String.toList_inj.mp (List.append_cancel_left hlists)
        exact hname (SettingName.text_inj.mp hsame).symm
      rw [if_neg hname, beq_eq_false_iff_ne.mpr htext]
      rfl
  have hfind : ({} : VariableRules).find?
      (Mapping.ofList [("symref_" ++ setting.text, some text)]) name =
      if setting = name then some (.str text) else none := by
    rw [VariableRules.find?, VariableRules.variable_usual, hget]
    split
    · rfl
    · rfl
  simp only [Sources.value?]
  rw [hfind]
  split
  · rfl
  · rfl

theorem Sources.read_of_some {α : Type} {sources : Sources} {name : SettingName} {v : Value}
    (h : sources.value? name = some v) (read : Value → Except Misfit α) (default : α) :
    sources.read name read default = read v := by
  rw [Sources.read, h]

theorem Sources.read_of_none {α : Type} {sources : Sources} {name : SettingName}
    (h : sources.value? name = none) (read : Value → Except Misfit α) (default : α) :
    sources.read name read default = .ok default := by
  rw [Sources.read, h]

/-- The name of the program and its arguments have no part in settings. -/
theorem Settings.fromSurroundings_run (s : Surroundings) (program : String)
    (arguments : List String) {explicit : Mapping Value} (h : Unreserved explicit) :
    Settings.fromSurroundings { s with program, arguments } explicit =
      Settings.fromSurroundings s explicit := by
  rw [Settings.fromSurroundings, Settings.fromSurroundings, Surroundings.sources_eq _ h,
    Surroundings.sources_eq _ h]
  rfl

end SymbolReference

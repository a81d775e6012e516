import SymbolReference.Proofs.Config.Precedence

namespace SymbolReference

def Settings.value (s : Settings) : SettingName → Value
  | .includeAll => .bool s.includeAll
  | .outputFormat => .str s.outputFormat.name
  | .searchable => .bool s.searchable
  | .scriptSource => (s.scriptSource.map Value.str).getD .none
  | .showTags => .bool s.showTags
  | .showLocations => .bool s.showLocations
  | .logLevel => .str s.logLevel
  | .jsonLogs => (s.jsonLogs.map Value.bool).getD .none

/-- What a setting makes of a value that is given for it. -/
def SettingName.accept : SettingName → Value → Except Misfit Value
  | .includeAll, v | .searchable, v | .showTags, v | .showLocations, v =>
    (readBoolean v).map Value.bool
  | .outputFormat, v => (readFormat v).map fun format => .str format.name
  | .scriptSource, v => (readOptional readText v).map fun text => (text.map Value.str).getD .none
  | .logLevel, v => (readText v).map Value.str
  | .jsonLogs, v => (readOptional readBoolean v).map fun b => (b.map Value.bool).getD .none

/-- What becomes of a setting, given the value that decides it. -/
def SettingName.verdict (name : SettingName) : Option Value → Except Misfit Value
  | some v => name.accept v
  | none => .ok (({} : Settings).value name)

/-- The problems with the settings whose verdict is a rejection. -/
def problemsOf (verdict : SettingName → Except Misfit Value) : List Problem :=
  SettingName.all.filterMap fun name => problem? name (verdict name)

theorem SettingName.mem_all (name : SettingName) : name ∈ SettingName.all := by
  cases name <;> decide

theorem problemsOf_ne_nil_iff {verdict : SettingName → Except Misfit Value} :
    problemsOf verdict ≠ [] ↔ ∃ name misfit, verdict name = .error misfit := by
  constructor
  · intro h
    by_contra hnone
    refine h (List.filterMap_eq_nil_iff.mpr fun name _ => ?_)
    rcases hverdict : verdict name with misfit | v
    · exact absurd ⟨name, misfit, hverdict⟩ hnone
    · rfl
  · rintro ⟨name, misfit, hverdict⟩ hnil
    have hnone := List.filterMap_eq_nil_iff.mp hnil name name.mem_all
    rw [hverdict] at hnone
    cases hnone

section Reading

variable {α : Type} {sources : Sources} {name : SettingName} {read : Value → Except Misfit α}
  {default : α} {f : α → Value}

theorem Sources.verdict_value? (hread : ∀ v, name.accept v = (read v).map f)
    (hdefault : ({} : Settings).value name = f default) :
    name.verdict (sources.value? name) = (sources.read name read default).map f := by
  rw [Sources.read]
  rcases sources.value? name with _ | v
  · exact congrArg Except.ok hdefault
  · exact hread v

theorem Sources.verdict_eq_ok_iff (hf : Function.Injective f)
    (hread : ∀ v, name.accept v = (read v).map f)
    (hdefault : ({} : Settings).value name = f default) {a : α} :
    name.verdict (sources.value? name) = .ok (f a) ↔ sources.read name read default = .ok a := by
  rw [Sources.verdict_value? hread hdefault]
  cases sources.read name read default with
  | error e => simp [Except.map]
  | ok b => simpa [Except.map] using hf.eq_iff

theorem Sources.problem?_verdict (hread : ∀ v, name.accept v = (read v).map f)
    (hdefault : ({} : Settings).value name = f default) :
    problem? name (name.verdict (sources.value? name)) =
      problem? name (sources.read name read default) := by
  rw [Sources.verdict_value? hread hdefault]
  cases sources.read name read default with
  | error e => rfl
  | ok b => rfl

end Reading

theorem formatName_injective :
    Function.Injective fun format : OutputFormat => Value.str format.name := by
  intro a b h
  have hfound := congrArg OutputFormat.ofName? (Value.str.inj h)
  rw [OutputFormat.ofName?_name, OutputFormat.ofName?_name] at hfound
  exact Option.some.inj hfound

theorem optional_injective {α : Type} {f : α → Value} (hf : Function.Injective f)
    (hnone : ∀ a, f a ≠ .none) :
    Function.Injective fun a : Option α => (a.map f).getD .none := by
  rintro (_ | a) (_ | b) h
  · rfl
  · exact absurd h.symm (hnone b)
  · exact absurd h (hnone a)
  · exact congrArg some (hf h)

theorem Settings.load_eq_ok_iff_verdict {sources : Sources} {s : Settings} :
    Settings.load sources = .ok s ↔
      ∀ name, SettingName.verdict name (sources.value? name) = .ok (s.value name) := by
  have hbool : Function.Injective Value.bool := fun _ _ h => Value.bool.inj h
  have hstr : Function.Injective Value.str := fun _ _ h => Value.str.inj h
  have hoptionalBool := optional_injective hbool (by simp)
  have hoptionalStr := optional_injective hstr (by simp)
  rw [Settings.load_eq_ok_iff, ← Sources.verdict_eq_ok_iff hbool (fun _ => rfl) rfl,
    ← Sources.verdict_eq_ok_iff formatName_injective (fun _ => rfl) rfl,
    ← Sources.verdict_eq_ok_iff hbool (fun _ => rfl) rfl,
    ← Sources.verdict_eq_ok_iff hoptionalStr (fun _ => rfl) rfl,
    ← Sources.verdict_eq_ok_iff hbool (fun _ => rfl) rfl,
    ← Sources.verdict_eq_ok_iff hbool (fun _ => rfl) rfl,
    ← Sources.verdict_eq_ok_iff hstr (fun _ => rfl) rfl,
    ← Sources.verdict_eq_ok_iff hoptionalBool (fun _ => rfl) rfl]
  constructor
  · rintro ⟨h₁, h₂, h₃, h₄, h₅, h₆, h₇, h₈⟩ name
    cases name <;> assumption
  · intro h
    exact ⟨h _, h _, h _, h _, h _, h _, h _, h _⟩

theorem Settings.load_eq_error {sources : Sources} {problems : List Problem}
    (h : Settings.load sources = .error problems) :
    problems = problemsOf fun name => name.verdict (sources.value? name) := by
  rw [Settings.load] at h
  simp only at h
  split at h
  · cases h
  · rw [← Except.error.inj h, ← Sources.problem?_verdict (f := Value.bool) (fun _ => rfl) rfl,
      ← Sources.problem?_verdict (f := fun format => .str format.name) (fun _ => rfl) rfl,
      ← Sources.problem?_verdict (f := Value.bool) (fun _ => rfl) rfl,
      ← Sources.problem?_verdict (f := fun text => (text.map Value.str).getD .none)
        (fun _ => rfl) rfl,
      ← Sources.problem?_verdict (f := Value.bool) (fun _ => rfl) rfl,
      ← Sources.problem?_verdict (f := Value.bool) (fun _ => rfl) rfl,
      ← Sources.problem?_verdict (f := Value.str) (fun _ => rfl) rfl,
      ← Sources.problem?_verdict (f := fun b => (b.map Value.bool).getD .none) (fun _ => rfl) rfl]
    exact (List.filterMap_map (f := fun name : SettingName =>
      problem? name (name.verdict (sources.value? name))) (l := SettingName.all))

theorem problem?_eq_none_iff {α : Type} {name : SettingName} {x : Except Misfit α} :
    problem? name x = none ↔ ∃ a, x = .ok a := by
  cases x with
  | error e => simp [problem?]
  | ok a => simp [problem?]

theorem Settings.ne_nil_of_load_eq_error {sources : Sources} {problems : List Problem}
    (h : Settings.load sources = .error problems) : problems ≠ [] := by
  rw [Settings.load] at h
  simp only at h
  split at h
  · cases h
  · rename_i hmisfit
    rintro rfl
    have hnone := List.filterMap_eq_nil_iff.mp (Except.error.inj h)
    simp only [List.forall_mem_cons, id_eq, problem?_eq_none_iff] at hnone
    obtain ⟨⟨_, h₁⟩, ⟨_, h₂⟩, ⟨_, h₃⟩, ⟨_, h₄⟩, ⟨_, h₅⟩, ⟨_, h₆⟩, ⟨_, h₇⟩, ⟨_, h₈⟩, -⟩ := hnone
    exact hmisfit _ _ _ _ _ _ _ _ h₁ h₂ h₃ h₄ h₅ h₆ h₇ h₈

/-- The variables of the usual file. There are none if it is missing or no file. -/
def Surroundings.envFileVariables (s : Surroundings) : Mapping (Option String) :=
  match s.files.find envFileName with
  | .ok (.file text) => EnvFile.read s.environment text
  | _ => Mapping.empty

theorem Files.place_envFileName (files : Files) :
    files.place envFileName =
      match files.text? Files.home with
      | some _ => .error (.notADirectory envFileName)
      | none => .ok (Files.home ++ [envFileName]) := by
  have hnull : envFileName.toList.contains '\x00' = false := by decide
  have hempty : envFileName.isEmpty = false := by decide
  have hsize : ¬ envFileName.utf8ByteSize > Files.longestPath := by decide
  have hparts : (Text.fields '/' envFileName.toList).map String.ofList = [envFileName] := by decide
  have hstart : envFileName.startsWith "/" = false := by decide +kernel
  have hdirectory : files.isDirectory Files.home = true := by
    simp [Files.isDirectory]
  have hplace : files.place envFileName = files.follow envFileName Files.home envFileName := by
    rw [Files.place, hnull, hempty, if_neg hsize, hparts, hstart]
    simp
  rw [hplace, Files.follow, Files.target?, hdirectory]
  rcases files.text? Files.home with _ | text
  · have hself : (decide (envFileName = "") || decide (envFileName = ".")) = false := by decide
    have hparent : envFileName ≠ ".." := by decide
    have hlong : ¬ envFileName.utf8ByteSize > Files.longestName := by decide
    simp [hself, hparent, hlong]
  · rfl

/-- Nothing but absence can be wrong with the usual file of variables. -/
theorem Files.isAbsence_of_find_envFileName {files : Files} {e : FileError}
    (h : files.find envFileName = .error e) : e.isAbsence = true := by
  rw [Files.find, Files.place_envFileName] at h
  rcases htext : files.text? Files.home with _ | text
  · rcases htarget : files.target? (Files.home ++ [envFileName]) with _ | found
    · simp only [htext, bind, Except.bind, htarget] at h
      cases h
      rfl
    · simp only [htext, bind, Except.bind, htarget] at h
      cases h
  · simp only [htext, bind, Except.bind] at h
    cases h
    rfl

theorem Surroundings.find?_envFileName (s : Surroundings) :
    s.find? (.str envFileName) =
      match s.files.find envFileName with
      | .ok found => .ok (some (envFileName, found))
      | .error _ => .ok none := by
  have hpath : normalPath envFileName = envFileName := by
    decide +kernel
  have hparts : pathParts envFileName = [".env"] := by
    decide +kernel
  have htilde : ".env".startsWith "~" = false := by
    decide +kernel
  have hhome : s.expandHome envFileName = .ok (some envFileName) := by
    rw [Surroundings.expandHome, hparts]
    simp [htilde]
  have hread : readPath (.str envFileName) = .ok envFileName := congrArg Except.ok hpath
  rw [Surroundings.find?, hread]
  simp only [bind, Except.bind, hhome]
  rcases hfind : s.files.find envFileName with e | found
  · simp only [Files.isAbsence_of_find_envFileName hfind, if_true]
    rfl
  · rfl

theorem Surroundings.usualFile_eq (s : Surroundings) : s.usualFile = .ok s.envFileVariables := by
  rw [Surroundings.usualFile, Surroundings.envVariables, s.find?_envFileName,
    Surroundings.envFileVariables]
  rcases hfind : s.files.find envFileName with e | (text | _)
  · rfl
  · rfl
  · rfl

theorem Settings.fromSurroundings_eq {s : Surroundings} {explicit : Mapping Value}
    (h : Unreserved explicit) :
    Settings.fromSurroundings s explicit =
      (Settings.load (s.usualSources explicit s.envFileVariables)).mapError .rejected := by
  rw [Settings.fromSurroundings, h.refuseNames_eq_ok, s.sources_eq h, s.usualFile_eq]
  simp only [bind, Except.bind, Except.map]
  cases Settings.load (s.usualSources explicit s.envFileVariables) with
  | ok settings => rfl
  | error problems => rfl

/-- The value of a setting from variables: that of the last one which has the name of the variable of
the setting, in any case. A variable without a value counts for nothing. -/
def variableValue? (entries : List (String × Option String)) (name : SettingName) : Option Value :=
  ((entries.reverse.find? fun entry =>
    Text.lower entry.1.toList == ("symref_" ++ name.text).toList).bind Prod.snd).map Value.str

def Surroundings.environmentVariables (s : Surroundings) : List (String × Option String) :=
  s.environment.toList.map fun entry => (entry.1, some entry.2)

theorem lookup_map_eq_find? {α : Type} (key : String → String) (entries : List (String × α))
    (name : String) :
    (entries.map fun entry => (key entry.1, entry.2)).lookup name =
      (entries.find? fun entry => key entry.1 == name).map Prod.snd := by
  induction entries with
  | nil => rfl
  | cons entry entries ih =>
      rw [List.map_cons, lookup_cons_eq_ite, List.find?_cons, ih]
      by_cases hname : name = key entry.1
      · simp [hname]
      · have hne : (key entry.1 == name) = false := beq_eq_false_iff_ne.mpr (Ne.symm hname)
        rw [if_neg hname, hne]

/-- Variables are found by their names in any case. -/
theorem find?_compared (found : Mapping (Option String)) (name : SettingName) :
    ({} : VariableRules).find? (({} : VariableRules).compared found) name =
      variableValue? found.toList name := by
  have hkey : ∀ entry : String × Option String,
      (({} : VariableRules).key entry.1 == "symref_" ++ name.text) =
        (Text.lower entry.1.toList == ("symref_" ++ name.text).toList) := by
    intro entry
    change (String.ofList (Text.lower entry.1.toList) == _) = _
    rw [Bool.eq_iff_iff, beq_iff_eq, beq_iff_eq, ← String.toList_inj, String.toList_ofList]
  have hall : found.toList.filter (fun entry => !(false && entry.2 = some "")) = found.toList := by
    simp
  rw [VariableRules.find?, VariableRules.variable_usual, VariableRules.compared, Mapping.get?_ofList,
    ← List.map_reverse, lookup_map_eq_find?, variableValue?, hall, funext hkey]
  rcases found.toList.reverse.find? _ with _ | entry
  · rfl
  · rfl

/-- A setting comes from its explicit value, from the environment, or from the usual file of
variables. -/
theorem Surroundings.value?_usualSources (s : Surroundings) (explicit : Mapping Value)
    (found : Mapping (Option String)) (name : SettingName) :
    (s.usualSources explicit found).value? name =
      (explicitValue? explicit name <|> variableValue? s.environmentVariables name <|>
        variableValue? found.toList name) := by
  have henvironment : (Mapping.ofList s.environmentVariables).toList = s.environmentVariables := by
    apply Mapping.toList_ofList
    rw [Surroundings.environmentVariables, List.map_map]
    exact s.environment.distinct
  have hupdate : ∀ m : Mapping (Option String), Mapping.empty.update m.toList = m := fun m =>
    Mapping.ext_toList (Mapping.toList_ofList m.distinct)
  have hfiles : ∀ known : Mapping (Option String),
      ({} : VariableRules).findInFiles? known name = ({} : VariableRules).find? known name :=
    fun known => rfl
  have hsecrets : (Mapping.get? (Mapping.empty : Mapping String)
      (({} : VariableRules).variable name)).map Value.str = none := rfl
  rw [← henvironment, ← find?_compared, ← find?_compared]
  simp only [Surroundings.usualSources, Sources.value?, hupdate, hfiles, hsecrets]
  simp [Surroundings.environmentVariables]

end SymbolReference

import SymbolReference.Cli.Run
import SymbolReference.Proofs.Config.Verdicts

/-!
Settings are looked for among overrides, the mapping of a configuration file, the environment and
the usual file of variables; the first that has a value for a setting decides it.

An override is written into the mapping under the name of its setting. A key of the file that spells
the name in another case stands before it and is found first, so this is left out here.
-/

namespace SymbolReference

/-- The override of a setting, if it is not nothing. -/
def override? (overrides : SettingName → Value) (name : SettingName) : Option Value :=
  match overrides name with
  | .none => none
  | v => some v

/-- The overrides that are given, by the names of their settings. -/
def overrideEntries (overrides : SettingName → Value) : List (String × Value) :=
  SettingName.all.filterMap fun name => (override? overrides name).map fun v => (name.text, v)

/-- The overrides that the options of a request stand for. -/
def Cli.RenderRequest.overrides (q : RenderRequest) : SettingName → Value
  | .includeAll => if q.includeAll then .bool true else .none
  | .outputFormat => (q.format.map fun f => Value.str f.name).getD .none
  | .searchable => if q.searchable then .bool true else .none
  | .scriptSource => (q.scriptSource.map Value.str).getD .none
  | _ => .none

theorem Cli.RenderRequest.explicit_eq_overrideEntries (q : RenderRequest) :
    q.explicit = overrideEntries q.overrides := by
  obtain ⟨modules, includeAll, format, output, searchable, scriptSource, config⟩ := q
  cases includeAll <;> cases format <;> cases searchable <;> cases scriptSource <;> rfl

/-- The entry of a mapping for a setting: the first one whose key is the name of the setting in any
case. -/
def entryFor? (m : Mapping Value) (name : SettingName) : Option (String × Value) :=
  m.toList.find? fun entry => Text.lower entry.1.toList == name.text.toList

/-- Whether a mapping has no other spelling of the name of a setting before the name itself. -/
def Spelled (m : Mapping Value) (name : SettingName) : Prop :=
  ∀ entry, entryFor? m name = some entry → entry.1 = name.text

theorem find?_writeEntry_of_false {α : Type} {p : String × α → Bool} {key : String}
    (h : ∀ v, p (key, v) = false) (entries : List (String × α)) (value : α) :
    (writeEntry entries key value).find? p = entries.find? p := by
  induction entries with
  | nil => simp [writeEntry, h]
  | cons entry entries ih =>
      obtain ⟨other, v⟩ := entry
      rw [writeEntry]
      by_cases hkey : other = key
      · subst hkey
        simp [h]
      · simp [hkey, List.find?_cons, ih]

theorem find?_writeEntry_of_true {α : Type} {p : String × α → Bool} {key : String}
    (h : ∀ v, p (key, v) = true) {entries : List (String × α)}
    (hfirst : ∀ entry, entries.find? p = some entry → entry.1 = key) (value : α) :
    (writeEntry entries key value).find? p = some (key, value) := by
  induction entries with
  | nil => simp [writeEntry, h]
  | cons entry entries ih =>
      obtain ⟨other, v⟩ := entry
      rw [writeEntry]
      by_cases hkey : other = key
      · simp [hkey, h]
      · rcases hp : p (other, v) with _ | _
        · have hrest : ∀ entry, entries.find? p = some entry → entry.1 = key := by
            intro entry hentry
            exact hfirst entry (by rw [List.find?_cons, hp, hentry])
          simp [hkey, hp, ih hrest]
        · exact absurd (hfirst (other, v) (by rw [List.find?_cons, hp])) hkey

theorem SettingName.lower_text_beq (setting name : SettingName) :
    (Text.lower setting.text.toList == name.text.toList) = decide (setting = name) := by
  rw [setting.lower_text, Bool.eq_iff_iff, beq_iff_eq, String.toList_inj, SettingName.text_inj,
    decide_eq_true_iff]

theorem entryFor?_insert_of_ne {m : Mapping Value} {setting name : SettingName}
    (h : setting ≠ name) (v : Value) :
    entryFor? (m.insert setting.text v) name = entryFor? m name := by
  refine find?_writeEntry_of_false (fun _ => ?_) m.toList v
  rw [setting.lower_text_beq, decide_eq_false_iff_not]
  exact h

theorem entryFor?_insert_self {m : Mapping Value} {name : SettingName} (h : Spelled m name)
    (v : Value) : entryFor? (m.insert name.text v) name = some (name.text, v) := by
  refine find?_writeEntry_of_true (fun _ => ?_) h v
  rw [name.lower_text_beq, decide_eq_true_iff]

theorem Spelled.insert {m : Mapping Value} {setting name : SettingName} (h : Spelled m name)
    (v : Value) : Spelled (m.insert setting.text v) name := by
  by_cases hname : setting = name
  · subst hname
    intro entry hentry
    rw [entryFor?_insert_self h v] at hentry
    cases hentry
    rfl
  · intro entry hentry
    rw [entryFor?_insert_of_ne hname v] at hentry
    exact h entry hentry

section Overrides

variable {overrides : SettingName → Value}

theorem update_override_cons (m : Mapping Value) (setting : SettingName)
    (names : List SettingName) :
    m.update ((setting :: names).filterMap fun name =>
        (override? overrides name).map fun v => (name.text, v)) =
      (match override? overrides setting with
        | none => m
        | some v => m.insert setting.text v).update (names.filterMap fun name =>
          (override? overrides name).map fun v => (name.text, v)) := by
  rw [List.filterMap_cons]
  rcases override? overrides setting with _ | v
  · rfl
  · rfl

theorem entryFor?_update_of_none {name : SettingName} (h : override? overrides name = none)
    (m : Mapping Value) (names : List SettingName) :
    entryFor? (m.update (names.filterMap fun name =>
      (override? overrides name).map fun v => (name.text, v))) name = entryFor? m name := by
  induction names generalizing m with
  | nil => rfl
  | cons setting names ih =>
      rw [update_override_cons, ih]
      rcases hsetting : override? overrides setting with _ | v
      · rfl
      · have hne : setting ≠ name := by
          rintro rfl
          rw [h] at hsetting
          cases hsetting
        exact entryFor?_insert_of_ne hne v

theorem entryFor?_update_of_some {name : SettingName} {v : Value}
    (h : override? overrides name = some v) {m : Mapping Value} {names : List SettingName}
    (hspelled : Spelled m name) (hentry : name ∈ names ∨ entryFor? m name = some (name.text, v)) :
    entryFor? (m.update (names.filterMap fun name =>
      (override? overrides name).map fun v => (name.text, v))) name = some (name.text, v) := by
  -- The settings in the list are still to be written: one of them writes the entry, or it stands
  -- there already.
  induction names generalizing m with
  | nil => exact hentry.resolve_left List.not_mem_nil
  | cons setting names ih =>
      rw [update_override_cons]
      by_cases hsetting : setting = name
      · subst hsetting
        rw [h]
        exact ih (hspelled.insert v) (Or.inr (entryFor?_insert_self hspelled v))
      · have hmem : name ∈ setting :: names ↔ name ∈ names := by
          rw [List.mem_cons, or_iff_right (Ne.symm hsetting)]
        rw [hmem] at hentry
        rcases override? overrides setting with _ | w
        · exact ih hspelled hentry
        · refine ih (hspelled.insert w) (hentry.imp_right fun hentry => ?_)
          rw [entryFor?_insert_of_ne hsetting w, hentry]

theorem explicitValue?_update_overrides {m : Mapping Value} {name : SettingName}
    (h : ∀ v, override? overrides name = some v → Spelled m name) :
    explicitValue? (m.update (overrideEntries overrides)) name =
      (override? overrides name <|> explicitValue? m name) := by
  rcases hoverride : override? overrides name with _ | v
  · exact congrArg (Option.map Prod.snd) (entryFor?_update_of_none hoverride m SettingName.all)
  · have hentry := entryFor?_update_of_some hoverride (h v hoverride)
      (Or.inl name.mem_all : name ∈ SettingName.all ∨ _)
    exact congrArg (Option.map Prod.snd) hentry

theorem text_of_mem_overrideEntries {entry : String × Value}
    (h : entry ∈ overrideEntries overrides) :
    ∃ name : SettingName, override? overrides name = some entry.2 ∧ entry.1 = name.text := by
  obtain ⟨name, -, hentry⟩ := List.mem_filterMap.mp h
  obtain ⟨v, hv, rfl⟩ := Option.map_eq_some_iff.mp hentry
  exact ⟨name, hv, rfl⟩

theorem Unreserved.update_overrides {m : Mapping Value} (h : Unreserved m)
    (overrides : SettingName → Value) : Unreserved (m.update (overrideEntries overrides)) := by
  intro name hname
  rw [Mapping.get?_eq_none_iff, Mapping.mem_names_update, not_or]
  refine ⟨(Mapping.get?_eq_none_iff m name).mp (h name hname), ?_⟩
  intro hmem
  obtain ⟨entry, hentry, rfl⟩ := List.mem_map.mp hmem
  obtain ⟨setting, -, htext⟩ := text_of_mem_overrideEntries hentry
  exact setting.text_notMem_reservedNames (htext ▸ hname)

end Overrides

/-- An entry of a mapping as an entry of a dictionary. -/
def textEntry (entry : String × Value) : Value × Value :=
  (.str entry.1, entry.2)

theorem insertEntry_textEntry {entries : List (String × Value)}
    (h : (entries.map Prod.fst).Nodup) (name : String) (v : Value) :
    Value.insertEntry (entries.map textEntry) (.str name) v =
      (writeEntry entries name v).map textEntry := by
  have hsame : ∀ entry, Value.same false (textEntry entry).1 (.str name) = (entry.1 == name) :=
    fun entry => by rw [textEntry, Value.same]
  rw [Value.insertEntry, List.any_map, List.map_map]
  simp only [Function.comp_def, hsame]
  by_cases hmem : name ∈ entries.map Prod.fst
  · have hany : (entries.any fun entry => entry.1 == name) = true := by
      obtain ⟨entry, hentry, hname⟩ := List.mem_map.mp hmem
      exact List.any_eq_true.mpr ⟨entry, hentry, beq_iff_eq.mpr hname⟩
    rw [if_pos hany, writeEntry_of_mem h hmem, List.map_map]
    refine List.map_congr_left fun entry _ => ?_
    by_cases hname : entry.1 = name
    · simp [hname, textEntry]
    · simp [hname]
  · have hany : (entries.any fun entry => entry.1 == name) = false := by
      rw [List.any_eq_false]
      intro entry hentry hname
      exact hmem (beq_iff_eq.mp hname ▸ List.mem_map_of_mem hentry)
    rw [hany, writeEntry_of_notMem hmem, List.map_append]
    rfl

/-- Overrides are written over the mapping of a file as over any mapping. -/
theorem overridden_textEntry (m : Mapping Value) {explicit : List (String × Value)}
    (h : ∀ entry ∈ explicit, entry.2 ≠ .none) :
    overridden (m.toList.map textEntry) explicit = (m.update explicit).toList.map textEntry := by
  induction explicit generalizing m with
  | nil => rfl
  | cons entry explicit ih =>
      have hstep : overridden (m.toList.map textEntry) (entry :: explicit) =
          overridden ((m.insert entry.1 entry.2).toList.map textEntry) explicit := by
        have hdistinct : (m.toList.map Prod.fst).Nodup := m.distinct
        have hvalue := h entry List.mem_cons_self
        rw [Mapping.toList_insert, ← insertEntry_textEntry hdistinct, overridden, List.foldl_cons]
        split
        · rename_i hnone
          exact absurd hnone hvalue
        · rfl
      rw [hstep, ih _ fun e he => h e (List.mem_cons_of_mem entry he)]
      rfl

theorem textKeys?_textEntry (entries : List (String × Value)) :
    textKeys? (entries.map textEntry) = some entries := by
  induction entries with
  | nil => rfl
  | cons entry entries ih =>
      rw [textKeys?] at ih
      rw [textKeys?, List.map_cons, List.mapM_cons, ih]
      rfl

theorem areWritableEntries_textEntry (entries : List (String × Value)) :
    Value.areWritableEntries (entries.map textEntry) =
      entries.all fun entry => entry.2.isWritable := by
  induction entries with
  | nil => rfl
  | cons entry entries ih =>
      rw [List.map_cons, textEntry, Value.areWritableEntries, ih, List.all_cons, Value.isWritable,
        Bool.true_and]

theorem ne_none_of_mem_overrideEntries {overrides : SettingName → Value} {entry : String × Value}
    (h : entry ∈ overrideEntries overrides) : entry.2 ≠ .none := by
  obtain ⟨name, hoverride, -⟩ := text_of_mem_overrideEntries h
  rintro hnone
  rw [hnone, override?] at hoverride
  split at hoverride
  · cases hoverride
  · rename_i v hv
    exact hv (Option.some.inj hoverride)

/-- Whether a path leads to a file that holds a mapping. -/
def HoldsMapping (s : Surroundings) (path : String) (m : Mapping Value) : Prop :=
  ∃ text, s.files.find (normalPath path) = .ok (.file text) ∧
    fileEntries (normalPath path) text = .ok (m.toList.map textEntry)

theorem configuration_eq {s : Surroundings} {path : String} {m : Mapping Value}
    (h : HoldsMapping s path m) (overrides : SettingName → Value) :
    configuration s (normalPath path) (overrideEntries overrides) =
      .ok ((m.update (overrideEntries overrides)).toList.map textEntry,
        m.update (overrideEntries overrides)) := by
  obtain ⟨text, hfind, hentries⟩ := h
  have hrefuse : refuseNames "SymrefSettings.from_yaml" ["cls", "yaml_path"]
      (overrideEntries overrides) = .ok () := by
    rw [refuseNames_eq_ok_iff]
    intro entry hentry hmem
    obtain ⟨name, -, htext⟩ := text_of_mem_overrideEntries hentry
    rw [htext] at hmem
    revert hmem
    cases name <;> decide
  have hnamed : ∀ m : Mapping Value, Mapping.ofList m.toList = m := fun m =>
    Mapping.ext_toList (Mapping.toList_ofList m.distinct)
  rw [configuration, hrefuse, hfind]
  simp only [bind, Except.bind, pure, Except.pure, hentries,
    overridden_textEntry m fun entry => ne_none_of_mem_overrideEntries, textKeys?_textEntry, hnamed]

/-- Settings to be loaded: where, with which overrides, of which nothing stands for none, and from
which file, if any, with the mapping that it holds. The keys of the mapping are not reserved and
spell the settings that are overridden by their own names. -/
structure Loading where
  surroundings : Surroundings
  overrides : SettingName → Value
  file : Option String
  mapping : Mapping Value
  held : match file with
    | none => mapping = Mapping.empty
    | some path => HoldsMapping surroundings path mapping
  unreserved : Unreserved mapping
  spelled : ∀ name v, override? overrides name = some v → Spelled mapping name

/-- The settings with a problem that an error reports. -/
def ConfigError.problems? : ConfigError → Option (List Problem)
  | .rejected problems | .rejectedFile _ problems => some problems
  | _ => none

namespace Loading

def outcome (a : Loading) : Except ConfigError Settings :=
  Settings.find a.surroundings (overrideEntries a.overrides) a.file

/-- The values for a setting in the order of their sources: its override, the key of the file, the
variable of the environment and that of the usual file of variables. -/
def candidates (a : Loading) (name : SettingName) : List (Option Value) :=
  [override? a.overrides name, explicitValue? a.mapping name,
    variableValue? a.surroundings.environmentVariables name,
    variableValue? a.surroundings.envFileVariables.toList name]

/-- What becomes of a setting, decided by the first source that has a value for it. -/
def verdict (a : Loading) (name : SettingName) : Except Misfit Value :=
  name.verdict ((a.candidates name).findSome? id)

/-- The explicit values: the mapping of the file with the overrides written over it. -/
def explicit (a : Loading) : Mapping Value :=
  a.mapping.update (overrideEntries a.overrides)

def sources (a : Loading) : Sources :=
  a.surroundings.usualSources a.explicit a.surroundings.envFileVariables

/-- Whether the report of a rejection can be written: it shows all explicit values, if there is a
file. -/
def Writable (a : Loading) : Prop :=
  a.file.isSome = true →
    (∀ v ∈ a.mapping.values, v.isWritable = true) ∧ ∀ name, (a.overrides name).isWritable = true

theorem verdict_eq (a : Loading) (name : SettingName) :
    name.verdict (a.sources.value? name) = a.verdict name := by
  have hvalue : a.sources.value? name = (a.candidates name).findSome? id := by
    rw [sources, Surroundings.value?_usualSources, explicit,
      explicitValue?_update_overrides (a.spelled name), candidates]
    rcases override? a.overrides name with _ | v
    · rcases explicitValue? a.mapping name with _ | v
      · rcases variableValue? a.surroundings.environmentVariables name with _ | v
        · rcases variableValue? a.surroundings.envFileVariables.toList name with _ | v <;> rfl
        · rfl
      · rfl
    · rfl
  rw [hvalue, verdict]

theorem Writable.isWritable_explicit {a : Loading} (h : a.Writable) (hfile : a.file.isSome = true) :
    (Value.dict (a.explicit.toList.map textEntry)).isWritable = true := by
  obtain ⟨hmapping, hoverrides⟩ := h hfile
  rw [Value.isWritable, areWritableEntries_textEntry, List.all_eq_true]
  intro entry hentry
  rcases Mapping.mem_toList_update hentry with hkey | hoverride
  · exact hmapping entry.2 (List.mem_map_of_mem hkey)
  · obtain ⟨name, hname, -⟩ := text_of_mem_overrideEntries hoverride
    have hwritable := hoverrides name
    rw [override?] at hname
    split at hname
    · cases hname
    · rwa [← Option.some.inj hname]

/-- The error for settings with problems that come through a file. -/
def rejectedFile (path : String) (merged : List (Value × Value)) (problems : List Problem) :
    ConfigError :=
  match invalidConfig path (.dict merged) none with
  | .ok fault => .rejectedFile fault problems
  | .error e => e

/-- Settings are loaded from their sources, with or without a file, and what is rejected is reported
if it can be. -/
theorem exists_outcome_eq (a : Loading) :
    ∃ report : List Problem → ConfigError,
      a.outcome = (Settings.load a.sources).mapError report ∧
        (a.Writable → ∀ problems, (report problems).problems? = some problems) := by
  have hload : Settings.fromSurroundings a.surroundings a.explicit =
      (Settings.load a.sources).mapError .rejected :=
    Settings.fromSurroundings_eq (a.unreserved.update_overrides a.overrides)
  have hheld := a.held
  rcases hfile : a.file with _ | path
  · rw [hfile] at hheld
    refine ⟨.rejected, ?_, fun _ _ => rfl⟩
    rw [← hload, outcome, hfile, explicit, hheld]
    rfl
  · rw [hfile] at hheld
    have hconfiguration : configuration a.surroundings (normalPath path)
        (overrideEntries a.overrides) = .ok (a.explicit.toList.map textEntry, a.explicit) :=
      configuration_eq hheld a.overrides
    refine ⟨rejectedFile (normalPath path) (a.explicit.toList.map textEntry), ?_, ?_⟩
    · rw [outcome, hfile, Settings.find, Settings.fromFile, hconfiguration]
      simp only [bind, Except.bind, hload]
      cases Settings.load a.sources with
      | ok settings => rfl
      | error problems =>
          simp only [Except.mapError, rejectedFile]
          cases invalidConfig (normalPath path) (.dict (a.explicit.toList.map textEntry)) none with
          | ok fault => rfl
          | error e => rfl
    · intro hwritable problems
      have hshown := hwritable.isWritable_explicit (by rw [hfile]; rfl)
      rw [rejectedFile, invalidConfig, if_pos hshown]
      rfl

theorem outcome_eq_ok_iff (a : Loading) (settings : Settings) :
    a.outcome = .ok settings ↔ ∀ name, a.verdict name = .ok (settings.value name) := by
  obtain ⟨report, houtcome, -⟩ := a.exists_outcome_eq
  have hload : a.outcome = .ok settings ↔ Settings.load a.sources = .ok settings := by
    rw [houtcome]
    cases Settings.load a.sources with
    | ok loaded => simp [Except.mapError]
    | error problems => simp [Except.mapError]
  simp only [hload, Settings.load_eq_ok_iff_verdict, verdict_eq]

theorem problems_of_outcome_eq_error (a : Loading) {e : ConfigError} (h : a.outcome = .error e) :
    problemsOf a.verdict ≠ [] ∧ (a.Writable → e.problems? = some (problemsOf a.verdict)) := by
  obtain ⟨report, houtcome, hreport⟩ := a.exists_outcome_eq
  rw [houtcome] at h
  rcases hload : Settings.load a.sources with problems | loaded
  · have hproblems : problems = problemsOf a.verdict := by
      rw [Settings.load_eq_error hload, funext a.verdict_eq]
    rw [hload] at h
    cases h
    rw [← hproblems]
    exact ⟨Settings.ne_nil_of_load_eq_error hload, fun hwritable => hreport hwritable problems⟩
  · rw [hload] at h
    cases h

end Loading

/-- Whether two lists of values by their sources agree altogether, or down to a source that has
one. -/
def DecidedAlike (xs ys : List (Option Value)) : Prop :=
  xs = ys ∨ ∃ n v, xs.take n = ys.take n ∧ some v ∈ xs.take n

theorem DecidedAlike.findSome?_eq {xs ys : List (Option Value)} (h : DecidedAlike xs ys) :
    xs.findSome? id = ys.findSome? id := by
  rcases h with rfl | ⟨n, v, hsame, hmem⟩
  · rfl
  · have hsome : ((xs.take n).findSome? id).isSome = true :=
      List.findSome?_isSome_iff.mpr ⟨some v, hmem, rfl⟩
    rw [← List.take_append_drop n xs, ← List.take_append_drop n ys, List.findSome?_append,
      List.findSome?_append, ← hsame, Option.or_of_isSome hsome, Option.or_of_isSome hsome]

/-- Each setting is decided by its first source alone. Settings are loaded exactly if every verdict is
the value that the setting takes, and fail to load exactly if some setting rejects the value that
decides it; the error then reports the settings that do, in order, if it can be written. The verdict
on a setting is the same in every other loading that agrees with this one on its sources down to the
deciding one. -/
theorem Loading.decided_by_first_source (a : Loading) :
    (∀ settings, a.outcome = .ok settings ↔
      ∀ name, a.verdict name = .ok (settings.value name)) ∧
    ((∃ e, a.outcome = .error e) ↔ ∃ name misfit, a.verdict name = .error misfit) ∧
    (a.Writable → ∀ e, a.outcome = .error e → e.problems? = some (problemsOf a.verdict)) ∧
    (∀ (b : Loading) (name : SettingName), DecidedAlike (a.candidates name) (b.candidates name) →
      a.verdict name = b.verdict name) := by
  refine ⟨a.outcome_eq_ok_iff, ?_, fun hwritable e he =>
    (a.problems_of_outcome_eq_error he).2 hwritable, ?_⟩
  · constructor
    · rintro ⟨e, he⟩
      exact problemsOf_ne_nil_iff.mp (a.problems_of_outcome_eq_error he).1
    · rintro ⟨name, misfit, hverdict⟩
      rcases houtcome : a.outcome with e | settings
      · exact ⟨e, rfl⟩
      · have hvalue := (a.outcome_eq_ok_iff settings).mp houtcome name
        rw [hverdict] at hvalue
        cases hvalue
  · intro b name h
    rw [Loading.verdict, Loading.verdict, h.findSome?_eq]

theorem Files.find_eq_of_read {files : Files} {path text : String}
    (h : (files.read path).toOption = some text) : files.find path = .ok (.file text) := by
  rw [Files.read] at h
  rcases hfind : files.find path with e | (found | _)
  · rw [hfind] at h
    cases h
  · rw [hfind] at h
    cases h
    rfl
  · rw [hfind] at h
    cases h

/-- The name and the value of the only entry of a file, if this is a switch. -/
def soleSwitch? : Except ConfigError (List (Value × Value)) → Option (String × Bool)
  | .ok [(.str name, .bool b)] => some (name, b)
  | _ => none

theorem eq_of_soleSwitch? {x : Except ConfigError (List (Value × Value))} {entry : String × Bool}
    (h : soleSwitch? x = some entry) : x = .ok [(.str entry.1, .bool entry.2)] := by
  unfold soleSwitch? at h
  split at h
  · cases h
    rfl
  · cases h

theorem holdsMapping_tagsOff (environment : Mapping String) :
    HoldsMapping { environment, files := Files.ofList [("c.yaml", "show_tags: no\n")] } "c.yaml"
      (Mapping.ofList [(SettingName.showTags.text, .bool false)]) := by
  have hread : ((Files.ofList [("c.yaml", "show_tags: no\n")]).read (normalPath "c.yaml")).toOption =
      some "show_tags: no\n" := by decide +kernel
  have hswitch : soleSwitch? (fileEntries (normalPath "c.yaml") "show_tags: no\n") =
      some ("show_tags", false) := by decide +kernel
  exact ⟨_, Files.find_eq_of_read hread, eq_of_soleSwitch? hswitch⟩

/-- A file that turns tags off, in some environment. -/
def Loading.tagsOff (environment : Mapping String) : Loading where
  surroundings := { environment, files := Files.ofList [("c.yaml", "show_tags: no\n")] }
  overrides := fun _ => .none
  file := some "c.yaml"
  mapping := Mapping.ofList [(SettingName.showTags.text, .bool false)]
  held := holdsMapping_tagsOff environment
  unreserved := unreserved_singleton .showTags _
  spelled := fun _ _ h => by cases h

theorem Loading.candidates_tagsOff (environment : Mapping String) :
    ((tagsOff environment).candidates .showTags).take 2 = [none, some (.bool false)] := by
  have hspelled : Spelled Mapping.empty .showTags := fun _ h => by cases h
  have hentry := entryFor?_insert_self hspelled (.bool false)
  have hfile : explicitValue? (tagsOff environment).mapping .showTags = some (.bool false) :=
    congrArg (Option.map Prod.snd) hentry
  rw [candidates, hfile]
  rfl

/-- A word that is no truth value stays unnoticed in the environment when the file decides, and is
reported when nothing stands before it. -/
theorem Loading.decided_by_first_source_tagsOff :
    let a := tagsOff (Mapping.ofList [("SYMREF_SHOW_TAGS", "maybe"), ("SYMREF_SEARCHABLE", "maybe")])
    let b := tagsOff Mapping.empty
    (DecidedAlike (a.candidates .showTags) (b.candidates .showTags) ∧
      a.verdict .showTags = b.verdict .showTags) ∧
    a.Writable ∧ ∃ e, a.outcome = .error e ∧
      e.problems? = some [{ setting := .searchable, misfit := .unreadableBoolean }] := by
  intro a b
  have halike : DecidedAlike (a.candidates .showTags) (b.candidates .showTags) := by
    refine Or.inr ⟨2, .bool false, ?_, ?_⟩
    · rw [candidates_tagsOff, candidates_tagsOff]
    · rw [candidates_tagsOff]
      simp
  have hwritable : a.Writable := by
    refine fun _ => ⟨fun v hv => ?_, fun _ => rfl⟩
    rw [List.mem_singleton.mp hv]
    rfl
  have hproblems : problemsOf a.verdict =
      [{ setting := .searchable, misfit := .unreadableBoolean }] := by
    decide +kernel
  obtain ⟨-, hfails, hreports, halikes⟩ := Loading.decided_by_first_source a
  obtain ⟨e, he⟩ : ∃ e, a.outcome = .error e := by
    rw [hfails, ← problemsOf_ne_nil_iff, hproblems]
    simp
  refine ⟨⟨halike, halikes b .showTags halike⟩, hwritable, e, he, ?_⟩
  rw [hreports hwritable e he, hproblems]

/-- A key of the file in capitals wins over the override of its setting. -/
theorem Cli.RenderRequest.override_loses_to_capitals :
    let q : RenderRequest := { modules := ["m"], scriptSource := some "b", config := some "c.yaml" }
    let s : Surroundings := { files := Files.ofList [("c.yaml", "SCRIPT_SRC: a\n")] }
    override? q.overrides .scriptSource = some (.str "b") ∧
      (Settings.find s q.explicit q.config).toOption = some { scriptSource := some "a" } := by
  intro q s
  exact ⟨rfl, by decide +kernel⟩

end SymbolReference

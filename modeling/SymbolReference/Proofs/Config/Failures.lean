import SymbolReference.Proofs.Config.Verdicts

namespace SymbolReference

/-- The fault that an error reports. The other errors are none of the configuration. -/
@[simp]
def ConfigError.fault? : ConfigError → Option Fault
  | .fault f | .rejectedFile f _ => some f
  | _ => none

@[simp]
theorem Fault.kind_missingConfig (path : String) (message : Option String) :
    (Fault.missingConfig path message).kind = .missingConfig := rfl

@[simp]
theorem Fault.kind_invalidConfig (path : String) (v : Value) (message : Option String) :
    (Fault.invalidConfig path v message).kind = .invalidConfig := rfl

section Reports

variable {α β : Type} {kind : FaultKind}

/-- Whether an outcome is a fault of some kind. -/
def Reports (kind : FaultKind) (x : Except ConfigError α) : Prop :=
  ∃ e f, x = .error e ∧ e.fault? = some f ∧ f.kind = kind

/-- Whether an outcome is a result or a fault of the configuration. -/
def Reported (x : Except ConfigError α) : Prop :=
  (∃ a, x = .ok a) ∨ Reports .missingConfig x ∨ Reports .invalidConfig x

@[simp]
theorem not_reports_ok (a : α) : ¬ Reports kind (.ok a) := by
  rintro ⟨e, f, h, -⟩
  cases h

@[simp]
theorem reports_error_iff {e : ConfigError} :
    Reports kind (.error e : Except ConfigError α) ↔ ∃ f, e.fault? = some f ∧ f.kind = kind := by
  simp [Reports]

theorem reports_bind_iff {x : Except ConfigError α} {g : α → Except ConfigError β} :
    Reports kind (x >>= g) ↔ Reports kind x ∨ ∃ a, x = .ok a ∧ Reports kind (g a) := by
  cases x with
  | error e => simp [Reports, bind, Except.bind]
  | ok a => simp [Reports, bind, Except.bind]

@[simp]
theorem reported_ok (a : α) : Reported (.ok a) :=
  Or.inl ⟨a, rfl⟩

@[simp]
theorem reported_error_iff {e : ConfigError} :
    Reported (.error e : Except ConfigError α) ↔
      ∃ f, e.fault? = some f ∧ (f.kind = .missingConfig ∨ f.kind = .invalidConfig) := by
  simp [Reported, and_or_left, exists_or]

theorem reported_bind_iff {x : Except ConfigError α} {g : α → Except ConfigError β} :
    Reported (x >>= g) ↔ Reported x ∧ ∀ a, x = .ok a → Reported (g a) := by
  cases x with
  | error e => simp [bind, Except.bind]
  | ok a => simp [bind, Except.bind]

/-- Whether an outcome is an error without a fault. -/
def escapes : Except ConfigError α → Bool
  | .ok _ => false
  | .error e => e.fault?.isNone

theorem not_reported_of_escapes {x : Except ConfigError α} (h : escapes x = true) :
    ¬ Reported x := by
  cases x with
  | error e =>
      have hnone : e.fault? = none := Option.isNone_iff_eq_none.mp h
      rw [reported_error_iff, hnone]
      rintro ⟨f, hf, -⟩
      cases hf
  | ok a => cases h

end Reports

/-- The value of the YAML text of a configuration file. -/
def configValue (text : String) : Except Yaml.Error Value :=
  Yaml.load (String.ofList (Text.unixNewlines text.toList))

/-- The mapping that a value stands for. Nothing, zero and the like stand for an empty one. -/
def mappingOf? (v : Value) : Option (List (Value × Value)) :=
  if v.isFalsy then some []
  else
    match v with
    | .dict entries => some entries
    | _ => none

/-- Whether a dictionary can be used for settings or at least be shown when they are rejected: its
keys are texts, the reserved names among them let the other sources be found, and unless its settings
are accepted it has no number that is too long to be written. -/
def Usable (s : Surroundings) (merged : List (Value × Value)) : Prop :=
  ∃ named sources, textKeys? merged = some named ∧
    (∀ entry ∈ (Mapping.ofList named).toList, entry.1 ∉ ["__pydantic_self__"]) ∧
    s.sources (Mapping.ofList named) = .ok sources ∧
    ∀ problems, Settings.load sources = .error problems → (Value.dict merged).isWritable = true

/-- What may be found under the path of a configuration file without an error that is none of the
configuration: nothing, a file that is no YAML, one with some other value that can be shown, or one
with a mapping that can be used. -/
inductive Presentable (s : Surroundings) (explicit : List (String × Value)) :
    Except FileError PathTarget → Prop
  | absent {e : FileError} (h : e.isAbsence = true) : Presentable s explicit (.error e)
  | malformed {text : String} (h : configValue text = .error .malformed) :
      Presentable s explicit (.ok (.file text))
  | stray {text : String} {v : Value} (h : configValue text = .ok v) (hv : mappingOf? v = none)
      (hshown : v.isWritable = true) : Presentable s explicit (.ok (.file text))
  | mapping {text : String} {v : Value} {entries : List (Value × Value)}
      (h : configValue text = .ok v) (hv : mappingOf? v = some entries)
      (husable : Usable s (overridden entries explicit)) :
      Presentable s explicit (.ok (.file text))

theorem fileEntries_eq (path text : String) :
    fileEntries path text =
      match configValue text with
      | .error .malformed => .error (.fault (Fault.invalidConfig path (.str "<unparseable>")))
      | .error e => .error (.yaml e)
      | .ok v =>
        match mappingOf? v with
        | some entries => .ok entries
        | none =>
          invalidConfig path v (some ("Config file " ++ path ++ " must contain a mapping")) >>=
            fun f => .error (.fault f) := by
  rw [fileEntries, configValue]
  rcases Yaml.load (String.ofList (Text.unixNewlines text.toList)) with e | v
  · cases e <;> rfl
  · simp only [mappingOf?]
    by_cases hfalsy : v.isFalsy = true
    · rw [if_pos hfalsy, if_pos hfalsy]
    · rw [if_neg hfalsy, if_neg hfalsy]
      cases v <;> rfl

theorem fileEntries_eq_ok_iff {path text : String} {entries : List (Value × Value)} :
    fileEntries path text = .ok entries ↔
      ∃ v, configValue text = .ok v ∧ mappingOf? v = some entries := by
  rw [fileEntries_eq]
  rcases configValue text with e | v
  · cases e <;> simp
  · rcases hmapping : mappingOf? v with _ | found
    · simp [hmapping, bind_eq_ok_iff]
    · simp [hmapping]

section Contents

variable {s : Surroundings} {path text : String} {v : Value} {message : Option String}
  {merged : List (Value × Value)} {explicit : List (String × Value)}

theorem reported_invalidConfig_iff :
    Reported (invalidConfig path v message) ↔ v.isWritable = true := by
  rw [invalidConfig]
  split
  case isTrue h => simp [h]
  case isFalse h => simp [h]

theorem not_reports_invalidConfig {kind : FaultKind} :
    ¬ Reports kind (invalidConfig path v message) := by
  rw [invalidConfig]
  split
  case isTrue h => simp
  case isFalse h => simp

theorem kind_of_invalidConfig {f : Fault} (h : invalidConfig path v message = .ok f) :
    f.kind = .invalidConfig := by
  rw [invalidConfig] at h
  split at h
  · cases h
    rfl
  · cases h

theorem reported_fileEntries_iff :
    Reported (fileEntries path text) ↔
      configValue text = .error .malformed ∨
        ∃ v, configValue text = .ok v ∧ (mappingOf? v = none → v.isWritable = true) := by
  rw [fileEntries_eq]
  rcases configValue text with e | v
  · by_cases hmalformed : e = .malformed
    · subst hmalformed
      simp
    · simp [hmalformed]
  · rcases hmapping : mappingOf? v with _ | entries
    · simp only [hmapping, reported_bind_iff, reported_invalidConfig_iff, reported_error_iff]
      constructor
      · intro h
        exact Or.inr ⟨v, rfl, fun _ => h.1⟩
      · rintro (h | ⟨w, h, hwritable⟩)
        · cases h
        · cases h
          exact ⟨hwritable hmapping, fun f hf => ⟨f, rfl, Or.inr (kind_of_invalidConfig hf)⟩⟩
    · simp [hmapping]

/-- Refused names are no fault of the configuration. -/
theorem refuseNames_cases (function : String) (taken : List String)
    (explicit : List (String × Value)) :
    (refuseNames function taken explicit = .ok () ∧ ∀ entry ∈ explicit, entry.1 ∉ taken) ∨
      ((∃ name, refuseNames function taken explicit = .error (.repeated function name)) ∧
        ¬ ∀ entry ∈ explicit, entry.1 ∉ taken) := by
  have hok : refuseNames function taken explicit = .ok () ↔ ∀ entry ∈ explicit, entry.1 ∉ taken :=
    refuseNames_eq_ok_iff
  rw [← hok, refuseNames]
  split
  · exact Or.inr ⟨⟨_, rfl⟩, by simp⟩
  · exact Or.inl ⟨rfl, rfl⟩

section Refusal

variable {function : String} {taken : List String} {α : Type} {x : Except ConfigError α}

theorem reported_refuseNames_bind_iff :
    Reported (refuseNames function taken explicit >>= fun _ => x) ↔
      (∀ entry ∈ explicit, entry.1 ∉ taken) ∧ Reported x := by
  rcases refuseNames_cases function taken explicit with ⟨h, hnames⟩ | ⟨⟨name, h⟩, hnames⟩
  · rw [h, and_iff_right hnames]
    rfl
  · rw [h, and_iff_left_of_imp fun hall => absurd hall hnames, iff_false_right hnames]
    simp [bind, Except.bind]

theorem reports_refuseNames_bind_iff {kind : FaultKind} :
    Reports kind (refuseNames function taken explicit >>= fun _ => x) ↔
      (∀ entry ∈ explicit, entry.1 ∉ taken) ∧ Reports kind x := by
  rcases refuseNames_cases function taken explicit with ⟨h, hnames⟩ | ⟨⟨name, h⟩, hnames⟩
  · rw [h, and_iff_right hnames]
    rfl
  · rw [h, and_iff_left_of_imp fun hall => absurd hall hnames, iff_false_right hnames]
    simp [bind, Except.bind]

end Refusal

theorem not_reports_mapError_lookup {α : Type} {x : Except LookupError α} {kind : FaultKind} :
    ¬ Reports kind (x.mapError .lookup) := by
  cases x with
  | error e => simp [Except.mapError]
  | ok a => simp [Except.mapError]

/-- Settings from sources that go with the dictionary of a configuration file, which is shown if they
are rejected. -/
def loadShowing (path : String) (merged : List (Value × Value)) (sources : Sources) :
    Except ConfigError Settings :=
  match Settings.load sources with
  | .ok settings => .ok settings
  | .error problems =>
    invalidConfig path (.dict merged) none >>= fun f => .error (.rejectedFile f problems)

/-- Settings from the dictionary of a configuration file. -/
def fromMerged (s : Surroundings) (path : String) (merged : List (Value × Value)) :
    Except ConfigError Settings :=
  match textKeys? merged with
  | none => .error .nonTextKey
  | some entries =>
    refuseNames "BaseSettings.__init__" ["__pydantic_self__"] (Mapping.ofList entries).toList >>=
      fun _ => (s.sources (Mapping.ofList entries)).mapError .lookup >>= loadShowing path merged

theorem reported_loadShowing_iff {sources : Sources} :
    Reported (loadShowing path merged sources) ↔
      ∀ problems, Settings.load sources = .error problems →
        (Value.dict merged).isWritable = true := by
  rw [loadShowing]
  rcases Settings.load sources with problems | settings
  · simp only [reported_bind_iff, reported_invalidConfig_iff, Except.error.injEq, forall_eq']
    refine and_iff_left_of_imp fun _ f hf => ?_
    simp [kind_of_invalidConfig hf]
  · simp

theorem reported_fromMerged_iff : Reported (fromMerged s path merged) ↔ Usable s merged := by
  rw [fromMerged, Usable]
  rcases textKeys? merged with _ | entries
  · simp
  · simp only [Option.some.injEq, exists_and_left, exists_eq_left']
    rw [reported_refuseNames_bind_iff, reported_bind_iff]
    simp only [reported_loadShowing_iff]
    refine and_congr_right fun _ => ?_
    rcases s.sources (Mapping.ofList entries) with e | sources
    · simp [Except.mapError]
    · simp [Except.mapError]

/-- What comes of loading a configuration file, given what is found under its path. -/
def fromTarget (s : Surroundings) (path : String) (explicit : List (String × Value)) :
    Except FileError PathTarget → Except ConfigError Settings
  | .error e =>
    if e.isAbsence then
      .error (.fault (Fault.missingConfig path (some ("Config file not found: " ++ path))))
    else .error (.file e)
  | .ok .directory => .error (.file (.isADirectory path))
  | .ok (.file text) =>
    fileEntries path text >>= fun entries => fromMerged s path (overridden entries explicit)

theorem fromSurroundings_showing_eq (s : Surroundings) (path : String)
    (merged : List (Value × Value)) (named : Mapping Value) :
    (match Settings.fromSurroundings s named with
      | .error (.rejected problems) =>
        invalidConfig path (.dict merged) none >>= fun f => .error (.rejectedFile f problems)
      | result => result) =
      (refuseNames "BaseSettings.__init__" ["__pydantic_self__"] named.toList >>= fun _ =>
        (s.sources named).mapError .lookup >>= loadShowing path merged) := by
  rw [Settings.fromSurroundings]
  rcases refuseNames_cases "BaseSettings.__init__" ["__pydantic_self__"] named.toList with
    ⟨hrefuse, -⟩ | ⟨⟨name, hrefuse⟩, -⟩
  · rw [hrefuse]
    rcases s.sources named with e | sources
    · rfl
    · simp only [bind, Except.bind, Except.mapError, loadShowing]
      rcases Settings.load sources with problems | settings
      · rfl
      · rfl
  · rw [hrefuse]
    rfl

theorem fromFile_eq (s : Surroundings) (path : String) (explicit : List (String × Value)) :
    Settings.fromFile s path explicit =
      (refuseNames "SymrefSettings.from_yaml" ["cls", "yaml_path"] explicit >>= fun _ =>
        fromTarget s (normalPath path) explicit (s.files.find (normalPath path))) := by
  rw [Settings.fromFile, configuration]
  rcases refuseNames "SymrefSettings.from_yaml" ["cls", "yaml_path"] explicit with e | _
  · rfl
  · rcases s.files.find (normalPath path) with e | (text | _)
    · cases habsence : e.isAbsence <;> simp [bind, Except.bind, fromTarget, habsence]
    · simp only [bind, Except.bind, fromTarget]
      rcases fileEntries (normalPath path) text with e | entries
      · rfl
      · dsimp only [fromMerged]
        rcases textKeys? (overridden entries explicit) with _ | named
        · rfl
        · exact fromSurroundings_showing_eq s (normalPath path) _ (Mapping.ofList named)
    · rfl

theorem reported_fromTarget_iff {target : Except FileError PathTarget} :
    Reported (fromTarget s path explicit target) ↔ Presentable s explicit target := by
  rcases target with e | (text | _)
  · rw [fromTarget]
    split
    case isTrue habsence => exact ⟨fun _ => .absent habsence, fun _ => by simp⟩
    case isFalse habsence =>
      refine ⟨by simp, ?_⟩
      rintro ⟨h⟩
      exact absurd h habsence
  · simp only [fromTarget, reported_bind_iff, reported_fileEntries_iff, fileEntries_eq_ok_iff,
      reported_fromMerged_iff]
    constructor
    · rintro ⟨hmalformed | ⟨v, hv, hstray⟩, hmerged⟩
      · exact .malformed hmalformed
      · rcases hmapping : mappingOf? v with _ | entries
        · exact .stray hv hmapping (hstray hmapping)
        · exact .mapping hv hmapping (hmerged entries ⟨v, hv, hmapping⟩)
    · intro h
      cases h with
      | malformed h => simp [h]
      | stray h hv hshown => simp [h, hv, hshown]
      | mapping h hv husable => simp [h, hv, husable]
  · refine ⟨by simp [fromTarget], ?_⟩
    rintro ⟨⟩

/-- What is wrong with a value is never that a file is missing. -/
theorem not_reportsMissing_invalidConfig_bind {α : Type} {report : Fault → ConfigError}
    (h : ∀ f, (report f).fault? = some f) :
    ¬ Reports .missingConfig (invalidConfig path v message >>= fun f =>
      (.error (report f) : Except ConfigError α)) := by
  rw [reports_bind_iff, or_iff_right not_reports_invalidConfig]
  rintro ⟨f, hf, hreports⟩
  rw [reports_error_iff, h] at hreports
  simp [kind_of_invalidConfig hf] at hreports

theorem not_reportsMissing_fileEntries : ¬ Reports .missingConfig (fileEntries path text) := by
  rw [fileEntries_eq]
  rcases configValue text with e | v
  · cases e <;> simp
  · rcases hmapping : mappingOf? v with _ | entries
    · simpa only [hmapping] using not_reportsMissing_invalidConfig_bind fun _ => rfl
    · simp [hmapping]

theorem not_reportsMissing_loadShowing {sources : Sources} :
    ¬ Reports .missingConfig (loadShowing path merged sources) := by
  rw [loadShowing]
  rcases Settings.load sources with problems | settings
  · exact not_reportsMissing_invalidConfig_bind fun _ => rfl
  · simp

theorem not_reportsMissing_fromMerged : ¬ Reports .missingConfig (fromMerged s path merged) := by
  rw [fromMerged]
  rcases textKeys? merged with _ | entries
  · simp
  · dsimp only
    rw [reports_refuseNames_bind_iff, reports_bind_iff]
    simp [not_reports_mapError_lookup, not_reportsMissing_loadShowing]

theorem reportsMissing_fromTarget_iff {target : Except FileError PathTarget} :
    Reports .missingConfig (fromTarget s path explicit target) ↔
      ∃ e, target = .error e ∧ e.isAbsence = true := by
  rcases target with e | (text | _)
  · rw [fromTarget]
    split
    case isTrue habsence => simp [habsence]
    case isFalse habsence => simp [habsence]
  · simp [fromTarget, reports_bind_iff, not_reportsMissing_fileEntries,
      not_reportsMissing_fromMerged]
  · simp [fromTarget]

end Contents

/-- Loading a configuration file gives settings or a fault of the configuration exactly if no
override has the name of an argument and what is found under the path is presentable. It reports the
file as missing exactly if nothing is found there. -/
theorem Settings.fromFile_reported_iff (s : Surroundings) (path : String)
    (explicit : List (String × Value)) :
    (((∃ settings, Settings.fromFile s path explicit = .ok settings) ∨
        Reports .missingConfig (Settings.fromFile s path explicit) ∨
        Reports .invalidConfig (Settings.fromFile s path explicit)) ↔
      (∀ entry ∈ explicit, entry.1 ∉ ["cls", "yaml_path"]) ∧
        Presentable s explicit (s.files.find (normalPath path))) ∧
    (Reports .missingConfig (Settings.fromFile s path explicit) ↔
      (∀ entry ∈ explicit, entry.1 ∉ ["cls", "yaml_path"]) ∧
        ∃ e, s.files.find (normalPath path) = .error e ∧ e.isAbsence = true) := by
  rw [fromFile_eq]
  constructor
  · change Reported _ ↔ _
    rw [reported_refuseNames_bind_iff, reported_fromTarget_iff]
  · rw [reports_refuseNames_bind_iff, reportsMissing_fromTarget_iff]

/-- A file whose only key is a number is neither missing nor reported as invalid. -/
theorem Settings.fromFile_escapes_on_number_key :
    let s : Surroundings := { files := Files.ofList [("c.yaml", "1: 2\n")] }
    ¬ ((∃ settings, Settings.fromFile s "c.yaml" [] = .ok settings) ∨
      Reports .missingConfig (Settings.fromFile s "c.yaml" []) ∨
      Reports .invalidConfig (Settings.fromFile s "c.yaml" [])) := by
  exact not_reported_of_escapes (by decide +kernel)

end SymbolReference

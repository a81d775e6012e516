import SymbolReference.Proofs.Log.Scopes
import SymbolReference.Proofs.Text.Case

namespace SymbolReference.Log

def serviceKey : String := "service.name"

theorem get?_insertNew (m : Mapping Value) (name other : String) (value : Value) :
    (insertNew m name value).get? other =
      if other = name then some ((m.get? name).getD value) else m.get? other := by
  rw [insertNew]
  cases hname : m.get? name with
  | none => rw [Option.isSome_none, if_neg Bool.false_ne_true, Mapping.get?_insert, Option.getD_none]
  | some found =>
      rw [Option.isSome_some, if_pos rfl, Option.getD_some]
      by_cases hother : other = name
      · rw [if_pos hother, hother, hname]
      · rw [if_neg hother]

theorem get?_withBound_of_notMem (fields : Mapping Value) {bound : Mapping Value} {name : String}
    (h : name ∉ bound.names) : (withBound fields bound).get? name = fields.get? name := by
  have hnames : name ∉ bound.toList.map Prod.fst := h
  rw [withBound]
  generalize bound.toList = entries at hnames ⊢
  induction entries generalizing fields with
  | nil => rfl
  | cons entry others ih =>
      rw [List.map_cons, List.mem_cons, not_or] at hnames
      rw [List.foldl_cons, ih _ hnames.2]
      split
      · rfl
      · rw [get?_insertNew, if_neg hnames.1]

theorem get?_withoutStackRequest_of_ne (fields : Mapping Value) {name : String}
    (h : name ≠ "stack_info") : (withoutStackRequest fields).get? name = fields.get? name := by
  rw [withoutStackRequest]
  split
  · split
    · exact fields.get?_erase_of_ne h
    · rfl
  · rfl

theorem get?_withLogger_of_ne (fields : Mapping Value) {name : String} (hkey : name ≠ loggerKey)
    (hlogger : name ≠ "logger") : (withLogger fields).get? name = fields.get? name := by
  rw [withLogger]
  split
  · exact fields.get?_erase_of_ne hkey
  · exact fields.get?_erase_of_ne hkey
  · rw [get?_insertNew, if_neg hlogger, fields.get?_erase_of_ne hkey]

namespace State

/-- A record names the service of a configured state unless its message or a scope around it
does. -/
theorem get?_record_service {s : State} {m : Message} (hconfigured : s.configuration ≠ none)
    (hbound : serviceKey ∉ s.bound.names) (hown : m.own.get? serviceKey = none) (stamp : String) :
    (s.record stamp m).get? serviceKey = some (.str s.service) := by
  obtain ⟨c, hc⟩ := Option.ne_none_iff_exists'.mp hconfigured
  have hstamped : (if c.stamped then m.own.insert "timestamp" (.str stamp) else m.own).get?
      serviceKey = none := by
    cases c.stamped with
    | false => exact hown
    | true => rw [if_pos rfl, Mapping.get?_insert, if_neg (by decide), hown]
  have hunsigned : (withLogger (s.leveled
      (if c.stamped then m.own.insert "timestamp" (.str stamp) else m.own) m)).get? serviceKey =
        none := by
    rw [get?_withLogger_of_ne _ (by decide) (by decide), leveled,
      get?_withoutStackRequest_of_ne _ (by decide), Mapping.get?_insert, if_neg (by decide),
      get?_withBound_of_notMem _ hbound, hstamped]
  rw [record, hc]
  refine (get?_insertNew _ _ _ _).trans ((if_pos rfl).trans ?_)
  exact congrArg (fun found : Option Value => some (found.getD (.str s.service))) hunsigned

/-- The state with another name for the service. -/
def renamed (s : State) (service : String) : State :=
  { s with service }

theorem get?_record_renamed (s : State) (service stamp : String) (m : Message) {name : String}
    (h : name ≠ serviceKey) :
    ((s.renamed service).record stamp m).get? name = (s.record stamp m).get? name := by
  simp only [record, renamed]
  cases s.configuration with
  | none => rfl
  | some c =>
      refine (get?_insertNew _ _ _ _).trans ((if_neg h).trans ?_)
      exact ((get?_insertNew _ _ _ _).trans (if_neg h)).symm

theorem record_renamed_of_unconfigured {s : State} (h : s.configuration = none)
    (service stamp : String) (m : Message) :
    (s.renamed service).record stamp m = s.record stamp m := by
  simp only [record, renamed, h]
  rfl

theorem snd_step_renamed_of_unconfigured {s : State} (h : s.configuration = none)
    (service stamp : String) (next : Step) :
    ((s.renamed service).step stamp next).2 = (s.step stamp next).2 := by
  cases next with
  | emit m =>
      have hline : (s.renamed service).line? stamp m = s.line? stamp m := by
        simp only [line?, record_renamed_of_unconfigured h]
        rfl
      simp only [step, hline]
  | note line => rfl
  | enter bindings =>
      simp only [step]
      split
      · rfl
      · rfl
  | leave => rfl

theorem step_renamed (s : State) (service stamp : String) (next : Step) :
    ((s.renamed service).step stamp next).1 = (s.step stamp next).1.renamed service := by
  cases next with
  | emit m => rfl
  | note line => rfl
  | enter bindings =>
      simp only [step]
      split
      · rfl
      · rfl
  | leave =>
      simp only [step, leave, renamed]
      split
      · rfl
      · rfl

/-- No step configures logging. -/
theorem configuration_step (s : State) (stamp : String) (next : Step) :
    (s.step stamp next).1.configuration = s.configuration := by
  cases next with
  | emit m => rfl
  | note line => rfl
  | enter bindings =>
      simp only [step]
      split
      · rfl
      · rfl
  | leave =>
      simp only [step, leave]
      split
      · rfl
      · rfl

theorem configuration_after (s : State) (stamp : String) (steps : List Step) :
    (s.after stamp steps).configuration = s.configuration := by
  induction steps generalizing s with
  | nil => rfl
  | cons next others ih => rw [after_cons, ih, configuration_step]

theorem after_renamed (s : State) (service stamp : String) (steps : List Step) :
    (s.renamed service).after stamp steps = (s.after stamp steps).renamed service := by
  induction steps generalizing s with
  | nil => rfl
  | cons next others ih => rw [after_cons, after_cons, step_renamed, ih]

end State

/-- Two states log alike: whatever has been done since, they let the same messages through, make the
same records of them, write records in the same form, and so write the same. -/
structure LogsAlike (s t : State) : Prop where
  filter : ∀ stamp steps m, (s.after stamp steps).admits m = (t.after stamp steps).admits m
  record : ∀ stamp steps m,
    (s.after stamp steps).record stamp m = (t.after stamp steps).record stamp m
  form : ∀ stamp steps, (s.after stamp steps).json = (t.after stamp steps).json
  written : ∀ stamp steps next,
    ((s.after stamp steps).step stamp next).2 = ((t.after stamp steps).step stamp next).2

theorem LogsAlike.refl (s : State) : LogsAlike s s :=
  ⟨fun _ _ _ => rfl, fun _ _ _ => rfl, fun _ _ => rfl, fun _ _ _ => rfl⟩

theorem State.after_scope (s : State) (stamp : String) {name : String} (h : name ≠ takenName) :
    s.after stamp [.enter [(name, .none)], .leave] = s.unbind [name] := by
  have hfree : takenName ∉ [(name, Value.none)].map Prod.fst := by
    simpa using Ne.symm h
  rw [after_cons, step_enter s stamp hfree, after_cons]
  exact leave_unbind_enter s [(name, .none)] []

theorem State.notMem_names_unbind (s : State) (name : String) :
    name ∉ (s.unbind [name]).bound.names := by
  intro hmem
  obtain ⟨entry, hentry, rfl⟩ := List.mem_map.mp hmem
  have hkept : entry ∈ s.bound.toList.filter fun kept => !([entry.1].contains kept.1) :=
    Mapping.toList_eraseAll s.bound [entry.1] ▸ hentry
  simpa using (List.mem_filter.mp hkept).2

/-- Before logging is configured no record shows the name of the service. -/
theorem logsAlike_renamed_of_unconfigured {s : State} (h : s.configuration = none)
    (service : String) : LogsAlike (s.renamed service) s := by
  have hlater : ∀ stamp steps, (s.after stamp steps).configuration = none := fun stamp steps =>
    (s.configuration_after stamp steps).trans h
  refine ⟨fun stamp steps m => ?_, fun stamp steps m => ?_, fun stamp steps => ?_,
    fun stamp steps next => ?_⟩
  · rw [State.after_renamed]
    rfl
  · rw [State.after_renamed, State.record_renamed_of_unconfigured (hlater stamp steps)]
  · rw [State.after_renamed]
    rfl
  · rw [State.after_renamed, State.snd_step_renamed_of_unconfigured (hlater stamp steps)]

theorem logsAlike_renamed_iff (s : State) (service : String) :
    LogsAlike (s.renamed service) s ↔ s.configuration = none ∨ service = s.service := by
  constructor
  · -- The record of a message without fields shows the name of the service, after a scope that has
    -- unbound what may cover it.
    intro h
    by_cases hconfigured : s.configuration = none
    · exact Or.inl hconfigured
    let m : Message := { level := .info, event := "" }
    have hrecord := h.record "" [.enter [(serviceKey, .none)], .leave] m
    rw [State.after_renamed, State.after_scope s "" (by decide)] at hrecord
    have hunbound := s.notMem_names_unbind serviceKey
    have hbefore : ((s.unbind [serviceKey]).record "" m).get? serviceKey = some (.str s.service) :=
      State.get?_record_service (s := s.unbind [serviceKey]) hconfigured hunbound rfl ""
    have hnow : (((s.unbind [serviceKey]).renamed service).record "" m).get? serviceKey =
        some (.str service) :=
      State.get?_record_service (s := (s.unbind [serviceKey]).renamed service) hconfigured hunbound
        rfl ""
    rw [hrecord, hbefore] at hnow
    cases hnow
    exact Or.inr rfl
  · rintro (h | h)
    · exact logsAlike_renamed_of_unconfigured h service
    · have hsame : s.renamed service = s := by
        rw [h]
        rfl
      rw [hsame]
      exact LogsAlike.refl s

namespace State

theorem configure_of_error {s : State} {options : Options} {onTerminal : Bool} {e : LevelError}
    (h : (s.configure options onTerminal).2 = .error e) :
    (s.configure options onTerminal).1 = s.renamed options.service := by
  rw [configure] at h ⊢
  cases hlevel : readThreshold options.level with
  | error reason => rfl
  | ok threshold =>
      rw [hlevel] at h
      cases h

theorem configure_renamed (s : State) (service : String) (options : Options) (onTerminal : Bool) :
    (s.renamed service).configure options onTerminal = s.configure options onTerminal := by
  rw [configure, configure]
  cases readThreshold options.level with
  | error reason => rfl
  | ok threshold => rfl

end State

/-- A configuration that fails changes the name of the service and nothing else: the other fields of
every record stay. So everything is logged as before exactly if the service keeps its name or logging
has not been configured yet, and the next configuration comes to the same as without the failed
one. -/
theorem failed_configure_logsAlike_iff {s : State} {options : Options} {onTerminal : Bool}
    {e : LevelError} (h : (s.configure options onTerminal).2 = .error e) :
    let t := (s.configure options onTerminal).1
    t = { s with service := options.service } ∧
    (∀ stamp steps m name, name ≠ serviceKey →
      ((t.after stamp steps).record stamp m).get? name =
        ((s.after stamp steps).record stamp m).get? name) ∧
    (LogsAlike t s ↔ s.configuration = none ∨ options.service = s.service) ∧
    ∀ later there, t.configure later there = s.configure later there := by
  simp only [State.configure_of_error h]
  refine ⟨rfl, fun stamp steps m name hname => ?_, logsAlike_renamed_iff s options.service,
    s.configure_renamed options.service⟩
  rw [State.after_renamed]
  exact State.get?_record_renamed _ _ _ _ hname

theorem readThreshold_bogus : readThreshold "bogus" = .error (.unknown "BOGUS") := by
  rw [readThreshold, Text.upper_ascii (by decide)]
  rfl

theorem failed_configure_logsAlike_bogus :
    (({} : State).configure { level := "bogus", json := some false }).2 =
      .error (.unknown "BOGUS") ∧
    LogsAlike (({} : State).configure { level := "bogus", json := some false }).1 {} := by
  have herror : (({} : State).configure { level := "bogus", json := some false }).2 =
      .error (.unknown "BOGUS") := by
    rw [State.configure, readThreshold_bogus]
  exact ⟨herror, (failed_configure_logsAlike_iff herror).2.2.1.mpr (Or.inr rfl)⟩

/-- The name that a failed configuration gives to the service is seen in the next line. -/
theorem failed_configure_renames_service :
    let t := (({} : State).configure { level := "bogus", service := "other" }).1
    let m : Message := { level := .info, event := "start" }
    (({} : State).configure { level := "bogus", service := "other" }).2 =
      .error (.unknown "BOGUS") ∧
    ({} : State).line? "" m = .ok (some (.record
      [("event", .text "start"), ("level", .text "info"), (serviceKey, .text "symref")])) ∧
    t.line? "" m = .ok (some (.record
      [("event", .text "start"), ("level", .text "info"), (serviceKey, .text "other")])) := by
  simp only [State.configure, readThreshold_bogus, true_and]
  exact ⟨rfl, rfl⟩

end SymbolReference.Log

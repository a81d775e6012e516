import SymbolReference.Proofs.Cli.Counting
import SymbolReference.Proofs.Inspection.Imports
import SymbolReference.Proofs.Terminal.Printing

namespace SymbolReference

open Terminal (joiner)

theorem joiner_notMem_hexDigits (width n : Nat) : joiner ∉ Text.hexDigits width n := by
  have hdigit : ∀ n < 16, Text.hexDigit n ≠ joiner := by decide
  induction width generalizing n with
  | zero => simp [Text.hexDigits]
  | succ width ih =>
      rw [Text.hexDigits, List.mem_append, List.mem_singleton, not_or]
      exact ⟨ih _, (hdigit _ (Nat.mod_lt n (by decide))).symm⟩

theorem isPrintable_joiner : Text.isPrintable joiner = false := by
  have hhidden : Text.inRanges Text.hiddenRanges joiner.toNat = true := by
    rw [Text.inRanges, Array.any_eq_true]
    exact ⟨245, by decide +kernel, by decide +kernel⟩
  unfold Text.isPrintable
  simp only
  rw [if_neg (by decide), hhidden]
  rfl

theorem joiner_notMem_escapeCode (n : Nat) : joiner ∉ Text.escapeCode n := by
  have hmark : ∀ mark, joiner ≠ mark →
      ∀ width, joiner ∉ '\\' :: mark :: Text.hexDigits width n := by
    intro mark hmark width
    rw [List.mem_cons, List.mem_cons, not_or, not_or]
    exact ⟨by decide, hmark, joiner_notMem_hexDigits width n⟩
  unfold Text.escapeCode
  split
  · exact hmark 'x' (by decide) 2
  · split
    · exact hmark 'u' (by decide) 4
    · exact hmark 'U' (by decide) 8

theorem joiner_notMem_quotedChar {quote : Char} (hquote : quote ≠ joiner) (c : Char) :
    joiner ∉ Text.quotedChar quote c := by
  unfold Text.quotedChar
  split
  · rename_i hc
    rw [Bool.or_eq_true, decide_eq_true_eq, decide_eq_true_eq] at hc
    have hne : c ≠ joiner := by
      rcases hc with rfl | rfl
      · exact hquote
      · decide
    simp only [List.mem_cons, List.not_mem_nil, or_false, not_or]
    exact ⟨by decide, hne.symm⟩
  · split
    · decide
    · split
      · decide
      · split
        · decide
        · split
          · rename_i hprintable
            rw [List.mem_singleton]
            rintro rfl
            rw [isPrintable_joiner] at hprintable
            cases hprintable
          · exact joiner_notMem_escapeCode _

theorem joiner_notMem_quote (s : String) : joiner ∉ (Text.quote s).toList := by
  have hquote : Text.quoteFor s.toList ≠ joiner := by
    unfold Text.quoteFor
    split
    · decide
    · decide
  rw [Text.quote, String.toList_ofList, Text.quoted, Text.quotedWith]
  simp only [List.mem_append, List.mem_cons, List.mem_flatMap, List.not_mem_nil, or_false, not_or,
    not_exists, not_and]
  exact ⟨⟨hquote.symm, fun c _ => joiner_notMem_quotedChar hquote c⟩, hquote.symm⟩

theorem joiner_notMem_append {s t : String} (hs : joiner ∉ s.toList) (ht : joiner ∉ t.toList) :
    joiner ∉ (s ++ t).toList := by
  rw [String.toList_append]
  exact List.not_mem_append hs ht

theorem joiner_notMem_missing (p : Program) (asked : String) {fuel : Nat} {name : List Char}
    {other reason : String} (h : p.missing asked fuel name = .notFound other reason) :
    joiner ∉ reason.toList := by
  have hplain : ∀ name, joiner ∉ ("No module named " ++ Text.quote name).toList :=
    fun name => joiner_notMem_append (by decide) (joiner_notMem_quote name)
  induction fuel generalizing name with
  | zero =>
      obtain ⟨-, rfl⟩ := ImportError.notFound.inj h
      exact hplain _
  | succ fuel ih =>
      rw [Program.missing] at h
      split at h
      · obtain ⟨-, rfl⟩ := ImportError.notFound.inj h
        exact hplain _
      · split at h
        · obtain ⟨-, rfl⟩ := ImportError.notFound.inj h
          exact hplain _
        · split at h
          · exact ih h
          · split at h
            · obtain ⟨-, rfl⟩ := ImportError.notFound.inj h
              refine joiner_notMem_append (joiner_notMem_append (joiner_notMem_append ?_ ?_) ?_) ?_
              · exact hplain _
              · decide
              · exact joiner_notMem_quote _
              · decide
            · obtain ⟨-, rfl⟩ := ImportError.notFound.inj h
              exact hplain _
            · cases h

theorem joiner_notMem_of_importModule {p : Program} {name other reason : String}
    (h : p.importModule name = .error (.notFound other reason)) : joiner ∉ reason.toList := by
  unfold Program.importModule at h
  split at h
  · cases h
  · split at h
    · cases h
    · split at h
      · cases h
      · exact joiner_notMem_missing p name (Except.error.inj h)

theorem joiner_notMem_importFault {name reason : String} (h : joiner ∉ reason.toList) :
    joiner ∉ (importFault name reason).message.toList :=
  have hname := joiner_notMem_append (s := "Cannot import module ") (by decide)
    (joiner_notMem_quote name)
  joiner_notMem_append (joiner_notMem_append hname (by decide)) h

namespace Cli

open Terminal

theorem joiner_notMem_failureText {message : String} (h : joiner ∉ message.toList) :
    joiner ∉ failureText message := by
  have hescape : joiner ∉ escape message.toList := by
    intro hmem
    rcases mem_or_slash_of_mem_escape hmem with hmem | hslash
    · exact h hmem
    · exact absurd hslash (by decide)
  unfold failureText
  exact List.not_mem_append (List.not_mem_append (by decide) hescape) (by decide)

theorem fail_eq_stop (r : Run) {f : Fault} (h : joiner ∉ f.message.toList) :
    r.fail f =
      r.stop 1 (String.ofList (Terminal.print defaultWidth (failureText f.message)).text) := by
  rw [Run.fail, Run.stopWith, checkMarkup_failureText]
  simp only [error_print_eq_none (joiner_notMem_failureText h)]

/-- The modules that a request has inspected, with the settings that it sets and the configuration
file that it names. -/
def Request.inspection? : Request → Option (List String × List (String × Value) × Option String)
  | .render q => some (q.modules, q.explicit, q.config)
  | .stats q => some (q.modules, q.explicit, none)
  | .help | .parseComment _ => none

/-- Whether a command line has modules inspected: its settings are found, and logging can be set up
as they say. -/
def Inspects (scene : Scene) (args names : List String) : Prop :=
  ∃ request explicit config base s, Asks scene args request ∧
    request.inspection? = some (names, explicit, config) ∧
    Settings.fromSurroundings scene.surroundings Mapping.empty = .ok base ∧
    Settings.find (Run.start scene args).scene.surroundings explicit config = .ok s ∧
    ∀ level ∈ [base.logLevel, s.logLevel], ∃ threshold, Log.readThreshold level = .ok threshold

/-- A run ends by reporting a fault. -/
structure Outcome.Reports (o : Outcome) (f : Fault) : Prop where
  exitCode : o.exitCode = 1
  crash : o.crash = none
  output : o.output = ""
  notice : o.notices.getLast? =
    some (.text (String.ofList (Terminal.print defaultWidth (failureText f.message)).text))

theorem reports_fail (r : Run) {f : Fault} (h : joiner ∉ f.message.toList) :
    (r.fail f).Reports f := by
  rw [fail_eq_stop r h]
  exact ⟨rfl, rfl, rfl, by simp [Run.stop]⟩

theorem uninspected_of_fault? (r : Run) {e : ImportError} (h : e.fault? = none) :
    r.uninspected (.imports e) = r.crash (.inspect (.imports e)) := by
  cases e with
  | notFound => cases h
  | _ => rfl

theorem renderWith_of_error {r : Run} {q : RenderRequest} {e : InspectError}
    (h : ∀ withHost, r.scene.program.inspectNames q.modules withHost = .error e) (s : Settings) :
    ∃ later : Run, r.renderWith q s = later.uninspected e := by
  unfold Run.renderWith
  rw [Report.inspect, h]
  exact ⟨_, rfl⟩

theorem countWith_of_error {r : Run} {q : StatsRequest} {e : InspectError}
    (h : ∀ withHost, r.scene.program.inspectNames q.modules withHost = .error e) (s : Settings) :
    ∃ later : Run, r.countWith q s = later.uninspected e := by
  unfold Run.countWith
  rw [Report.inspect, h]
  exact ⟨_, rfl⟩

theorem withSettings_of_find {r : Run} {explicit : List (String × Value)} {file : Option String}
    {s : Settings} (h : Settings.find r.scene.surroundings explicit file = .ok s) :
    ∃ noted : Run, noted.scene = r.scene ∧
      ∀ next, r.withSettings explicit file next = next noted s := by
  refine ⟨r.note (Settings.findNotices r.scene.surroundings explicit file), rfl, fun next => ?_⟩
  simp only [Run.withSettings, h]

/-- A command whose modules cannot be inspected ends with that. -/
theorem run_of_inspects {scene : Scene} {args names : List String} (h : Inspects scene args names)
    {e : InspectError} (he : ∀ withHost, scene.program.inspectNames names withHost = .error e) :
    ∃ r : Run, run scene args = r.uninspected e := by
  obtain ⟨request, explicit, config, base, s, hasks, hinspection, hbase, hfind, hlevels⟩ := h
  obtain ⟨threshold, hthreshold⟩ := hlevels base.logLevel (by simp)
  obtain ⟨later, hlater⟩ := hlevels s.logLevel (by simp)
  rcases run_of_asks hbase hasks with ⟨e, hlevel, -⟩ |
    ⟨_, c, rest, ready, -, hrun, hscene, hrequest⟩
  · cases hlevel.symm.trans hthreshold
  · rw [hrun]
    have hcommand : ∀ r : Run, r.scene = ready.scene →
        ∀ withHost, r.scene.program.inspectNames names withHost = .error e := by
      intro r hr
      rw [hr, hscene]
      exact he
    rw [← hscene] at hfind
    unfold Run.command
    rw [hrequest]
    cases request with
    | help => cases hinspection
    | parseComment => cases hinspection
    | stats q =>
        obtain ⟨rfl, rfl, rfl⟩ : q.modules = names ∧ q.explicit = explicit ∧ none = config := by
          simpa [Request.inspection?] using hinspection
        obtain ⟨noted, hnoted, hnext⟩ := withSettings_of_find hfind
        obtain ⟨final, hfinal⟩ := countWith_of_error (hcommand noted hnoted) s
        exact ⟨final, (hnext _).trans hfinal⟩
    | render q =>
        obtain ⟨rfl, rfl, rfl⟩ : q.modules = names ∧ q.explicit = explicit ∧ q.config = config := by
          simpa [Request.inspection?] using hinspection
        obtain ⟨noted, hnoted, hnext⟩ := withSettings_of_find hfind
        change ∃ r : Run, ready.render q = r.uninspected e
        rw [Run.render, hnext]
        split
        · obtain ⟨configured, hconfigured, hsame, -⟩ := setUp_eq_ok noted hlater
          rw [hconfigured]
          exact renderWith_of_error (hcommand configured (hsame.trans hnoted)) s
        · exact renderWith_of_error (hcommand noted hnoted) s

/-- Modules by name, and how a command ends that asks for them. The modules of a list of names are
gathered in order exactly when all names can be imported (and the names that the modules say they
have can be noted down). Otherwise the first name that cannot be imported decides: a missing module
is reported by a fault that names it, and the command ends with code 1 and a notice; with every
other name the error is not reported and the command crashes. -/
theorem imports_of_names (scene : Scene) (names : List String) :
    (∀ modules, scene.program.gather names = .ok modules ↔
      List.Forall₂ scene.program.Provides names modules ∧
        ∀ m ∈ modules, titleFault? m = none) ∧
    ∀ before name after, names = before ++ name :: after →
      (∀ other ∈ before, ∃ m, scene.program.Provides other m) →
      (∀ m, ¬ scene.program.Provides name m) →
      (scene.program.Misses name → ∃ reason,
        scene.program.gather names = .error (.imports (.notFound name reason)) ∧
        (importFault name reason).kind = .introspection ∧
        (importFault name reason).context = Mapping.ofList [("module", .str name)] ∧
        ∀ args, Inspects scene args names → (run scene args).Reports (importFault name reason)) ∧
      (¬ scene.program.Misses name → ∃ e, e.fault? = none ∧
        scene.program.gather names = .error (.imports e) ∧
        ∀ args, Inspects scene args names →
          (run scene args).crash = some (.inspect (.imports e))) := by
  refine ⟨fun modules => Program.gather_eq_ok_iff, ?_⟩
  rintro before name after rfl hbefore hname
  obtain ⟨e, he, hmisses, hescapes⟩ := Program.importModule_of_not_provided hname
  have himport := Program.importAll_eq_error hbefore he after
  have hgather : scene.program.gather (before ++ name :: after) = .error (.imports e) := by
    rw [Program.gather, himport]
  have hinspect : ∀ withHost, scene.program.inspectNames (before ++ name :: after) withHost =
      .error (.imports e) := by
    intro withHost
    rw [Program.inspectNames_eq_gather_bind, hgather]
    rfl
  constructor
  · intro hmissing
    obtain ⟨reason, rfl⟩ := hmisses hmissing
    refine ⟨reason, hgather, rfl, rfl, fun args hargs => ?_⟩
    obtain ⟨r, hrun⟩ := run_of_inspects hargs hinspect
    rw [hrun]
    exact reports_fail r (joiner_notMem_importFault (joiner_notMem_of_importModule he))
  · intro hmissing
    refine ⟨e, hescapes hmissing, hgather, fun args hargs => ?_⟩
    obtain ⟨r, hrun⟩ := run_of_inspects hargs hinspect
    rw [hrun, uninspected_of_fault? r (hescapes hmissing)]
    rfl

/-- Names that are no options, after the name of the command, ask for the reference of modules. -/
theorem asks_render_names (scene : Scene) {names : List String} (hsome : names ≠ [])
    (h : ∀ name ∈ names, name.toList.head? ≠ some '-') :
    Asks scene ("render" :: names) (.render { modules := names }) := by
  have hnames : names.isEmpty = false := List.isEmpty_eq_false_iff.mpr hsome
  have hrequest : Request.ofArguments scene.surroundings.files scene.input .render
      { rest := names } = .ok (.render { modules := names }) := by
    simp only [Request.ofArguments, requireModules, hnames]
    rfl
  have hasks := asks_names_flags scene .render names [] h (List.forall_mem_nil _) hrequest
  rw [List.map_nil, List.append_nil] at hasks
  exact hasks

theorem inspects_hostScene {args names : List String}
    (h : Asks hostScene args (.render { modules := names })) : Inspects hostScene args names := by
  have hstart : Settings.fromSurroundings (Run.start hostScene args).scene.surroundings
      Mapping.empty = .ok { includeAll := true } :=
    (Settings.fromSurroundings_run _ _ _ Unreserved.empty).trans hostScene_settings
  refine ⟨_, _, _, _, _, h, rfl, hostScene_settings, find_render hstart names false, ?_⟩
  rintro level hlevel
  obtain rfl : level = "INFO" := by simpa using hlevel
  exact ⟨20, readThreshold_info⟩

theorem hostScene_misses_dotted : hostScene.program.Misses "m.sub" := by
  have hmodule : hostScene.program.module? (String.ofList "m".toList) =
      some { name := "m", title := .value (.str "m") } := rfl
  have hname : "m.sub".toList = "m".toList ++ '.' :: "sub".toList := by decide
  refine ⟨⟨by decide, by decide⟩, rfl, ?_⟩
  rintro typeName ⟨parent, m, hnearest, hpath⟩
  rw [hname] at hnearest
  rw [hnearest.eq_of_present (by decide) hmodule] at hpath
  cases hpath

/-- A module that is no package is imported first, then something inside of it is missing. -/
theorem imports_of_names_dotted : ∃ reason,
    hostScene.program.gather ["m", "m.sub"] = .error (.imports (.notFound "m.sub" reason)) ∧
    (run hostScene ["render", "m", "m.sub"]).Reports (importFault "m.sub" reason) := by
  have hasks : Asks hostScene ["render", "m", "m.sub"] (.render { modules := ["m", "m.sub"] }) :=
    asks_render_names _ (by decide) (by decide)
  have hbefore : ∀ other ∈ ["m"], ∃ m, hostScene.program.Provides other m := by
    rintro other hother
    obtain rfl := List.mem_singleton.mp hother
    exact ⟨_, ⟨by decide, by decide⟩, rfl⟩
  have hmisses := hostScene_misses_dotted
  have hname : ∀ m, ¬ hostScene.program.Provides "m.sub" m := by
    rintro m ⟨-, hm⟩
    rw [hmisses.2.1] at hm
    cases hm
  obtain ⟨reason, hgather, -, -, hreports⟩ :=
    ((imports_of_names hostScene ["m", "m.sub"]).2 ["m"] "m.sub" [] rfl hbefore hname).1 hmisses
  exact ⟨reason, hgather, hreports _ (inspects_hostScene hasks)⟩

/-- The empty name cannot be imported, and this is not reported. -/
theorem imports_escape_on_empty_name :
    (∀ m, ¬ hostScene.program.Provides "" m) ∧
    hostScene.program.gather [""] = .error (.imports .emptyName) ∧
    ImportError.fault? .emptyName = none ∧
    Asks hostScene ["render", ""] (.render { modules := [""] }) ∧
    (run hostScene ["render", ""]).crash = some (.inspect (.imports .emptyName)) := by
  have hasks : Asks hostScene ["render", ""] (.render { modules := [""] }) :=
    asks_render_names _ (by decide) (by decide)
  have hinspect : ∀ withHost, hostScene.program.inspectNames [""] withHost =
      .error (.imports .emptyName) := fun _ => rfl
  obtain ⟨r, hrun⟩ := run_of_inspects (inspects_hostScene hasks) hinspect
  refine ⟨fun m hm => hm.1.1 rfl, rfl, rfl, hasks, ?_⟩
  rw [hrun]
  rfl

end Cli

end SymbolReference

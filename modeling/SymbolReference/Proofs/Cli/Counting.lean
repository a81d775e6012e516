import Mathlib.Data.List.Basic
import SymbolReference.Cli.Run
import SymbolReference.Proofs.Cli.CommandLine
import SymbolReference.Proofs.Config.Verdicts
import SymbolReference.Proofs.Report.Publication

namespace SymbolReference.Cli

/-- Whether a command line asks for something in a scene. -/
def Asks (scene : Scene) (args : List String) (request : Request) : Prop :=
  ∃ c rest, ProgramRequest.read args = .ok (.command c rest) ∧
    Request.read scene.surroundings.files scene.input c rest = .ok request

/-- Why a command comes to no document: logging cannot be set up, modules cannot be inspected, or
what is found makes up no document. -/
inductive NoDocument where
  | level (e : Log.LevelError)
  | inspection (e : InspectError)
  | build (f : Failure)

def documentOf (s : Settings) (p : Program) (modules : List String) :
    Except NoDocument Document := do
  let findings ← (Report.inspect s p modules).mapError .inspection
  (Report.build s (some findings.inventory)).mapError .build

/-- The document that a command comes to in a scene under some settings. -/
def Scene.document (scene : Scene) (s : Settings) (modules : List String) :
    Except NoDocument Document := do
  let _ ← (Log.readThreshold s.logLevel).mapError .level
  documentOf s scene.program modules

/-- The counts of a document as they are shown. -/
def statsOf (d : Document) : Stats where
  includeAll := d.includeAll
  counts := d.counts

/-- A run fails and prints nothing. -/
def Outcome.Fails (o : Outcome) : Prop :=
  o.exitCode = 1 ∧ o.output = ""

/-- A run shows the counts of a document, as a JSON object or as a table in the width of the scene.
Without a document it fails. -/
structure Outcome.ShowsCounts (o : Outcome) (scene : Scene) (json : Bool)
    (found : Except NoDocument Document) : Prop where
  fails : ∀ e, found = .error e → o.Fails
  counts : ∀ d, found = .ok d → ∃ r : Run, r.scene.width = scene.width ∧
    o = if json then r.succeed (String.ofList ((statsJson (statsOf d)).writeIndented 0 ++ ['\n']))
      else r.display fun width => statsText width (statsOf d)

/-- A run prints the page of a document, or crashes at a number on the page that cannot be written.
Without a document it fails. -/
structure Outcome.PrintsPage (o : Outcome) (format : OutputFormat) (options : PageOptions)
    (found : Except NoDocument Document) : Prop where
  fails : ∀ e, found = .error e → o.Fails
  page : ∀ d, found = .ok d → d.isWritable options = true →
    o.exitCode = 0 ∧ o.crash = none ∧ o.output = d.render format options ++ "\n"
  unwritable : ∀ d, found = .ok d → d.isWritable options = false →
    o.exitCode = 1 ∧ o.crash = some (.number .unwritable) ∧ o.output = ""

theorem showsCounts_of_fails {o : Outcome} (h : o.Fails) (scene : Scene) (json : Bool)
    (e : NoDocument) : o.ShowsCounts scene json (.error e) where
  fails _ _ := h
  counts _ hd := by cases hd

theorem printsPage_of_fails {o : Outcome} (h : o.Fails) (format : OutputFormat)
    (options : PageOptions) (e : NoDocument) : o.PrintsPage format options (.error e) where
  fails _ _ := h
  page _ hd := by cases hd
  unwritable _ hd := by cases hd

theorem fails_stopWith (r : Run) (markup : List Char) : (r.stopWith 1 markup).Fails := by
  unfold Run.stopWith
  split
  · exact ⟨rfl, rfl⟩
  · simp only
    split
    · exact ⟨rfl, rfl⟩
    · exact ⟨rfl, rfl⟩

theorem fails_abandon (r : Run) (f : Failure) : (r.abandon f).Fails := by
  cases f with
  | fault f => exact fails_stopWith r _
  | number e => exact ⟨rfl, rfl⟩

theorem fails_uninspected (r : Run) (e : InspectError) : (r.uninspected e).Fails := by
  unfold Run.uninspected
  split
  · exact fails_stopWith r _
  · exact ⟨rfl, rfl⟩

theorem documentOf_cases (s : Settings) (p : Program) (modules : List String) :
    (∃ e, Report.inspect s p modules = .error e ∧ documentOf s p modules = .error (.inspection e)) ∨
    ∃ findings, Report.inspect s p modules = .ok findings ∧
      ((∃ f, Report.build s (some findings.inventory) = .error f ∧
        documentOf s p modules = .error (.build f)) ∨
      ∃ d, Report.build s (some findings.inventory) = .ok d ∧ documentOf s p modules = .ok d) := by
  unfold documentOf
  rcases Report.inspect s p modules with e | findings
  · exact Or.inl ⟨e, rfl, rfl⟩
  · refine Or.inr ⟨findings, rfl, ?_⟩
    rcases hbuild : Report.build s (some findings.inventory) with f | d
    · refine Or.inl ⟨f, rfl, ?_⟩
      simp only [Except.mapError, bind, Except.bind, hbuild]
    · refine Or.inr ⟨d, rfl, ?_⟩
      simp only [Except.mapError, bind, Except.bind, hbuild]

theorem showsCounts_countWith {r : Run} {scene : Scene} (hwidth : r.scene.width = scene.width)
    (q : StatsRequest) (s : Settings) :
    (r.countWith q s).ShowsCounts scene q.json (documentOf s r.scene.program q.modules) := by
  unfold Run.countWith
  rcases documentOf_cases s r.scene.program q.modules with ⟨e, hinspect, hdocument⟩ |
    ⟨findings, hinspect, ⟨f, hbuild, hdocument⟩ | ⟨d, hbuild, hdocument⟩⟩
  · rw [hdocument, hinspect]
    exact showsCounts_of_fails (fails_uninspected _ e) scene _ _
  · have hstats : Report.stats s (some findings.inventory) = .error f := by
      rw [Report.stats, hbuild]
      rfl
    rw [hdocument, hinspect]
    simp only [hstats]
    exact showsCounts_of_fails (fails_abandon _ _) scene _ _
  · have hstats : Report.stats s (some findings.inventory) = .ok (statsOf d) := by
      rw [Report.stats, hbuild]
      rfl
    rw [hdocument, hinspect]
    simp only [hstats]
    refine ⟨fun _ he => (by cases he), ?_⟩
    rintro _ ⟨⟩
    refine ⟨_, ?_, rfl⟩
    exact hwidth

theorem generate_of_build {s : Settings} {inventory : Option Inventory} {d : Document}
    (h : Report.build s inventory = .ok d) :
    Report.generate s none inventory = renderDocument? s.outputFormat s.pageOptions (some d) := by
  have hformat : Report.format s none = .ok s.outputFormat := by
    rw [Report.format, Settings.formatName, OutputFormat.resolve, OutputFormat.ofName?_name]
  rw [Report.generate, h]
  change Report.render s none (some d) = _
  rw [Report.render, hformat]
  rfl

theorem printsPage_renderWith (r : Run) {q : RenderRequest} (htarget : q.target? = none)
    (s : Settings) :
    (r.renderWith q s).PrintsPage s.outputFormat s.pageOptions
      (documentOf s r.scene.program q.modules) := by
  unfold Run.renderWith
  rcases documentOf_cases s r.scene.program q.modules with ⟨e, hinspect, hdocument⟩ |
    ⟨findings, hinspect, ⟨f, hbuild, hdocument⟩ | ⟨d, hbuild, hdocument⟩⟩
  · rw [hdocument, hinspect]
    exact printsPage_of_fails (fails_uninspected _ e) _ _ _
  · have hgenerate : Report.generate s none (some findings.inventory) = .error f := by
      rw [Report.generate, hbuild]
      rfl
    rw [hdocument, hinspect]
    simp only [htarget, Report.publish_of_error none hgenerate]
    exact printsPage_of_fails (fails_abandon _ _) _ _ _
  · have hgenerate := generate_of_build hbuild
    rw [renderDocument?] at hgenerate
    rw [hdocument, hinspect]
    cases hwritable : d.isWritable s.pageOptions with
    | true =>
        rw [hwritable, if_pos rfl] at hgenerate
        simp only [htarget, Report.publish_none hgenerate]
        refine ⟨fun _ he => (by cases he), ?_, ?_⟩
        · rintro _ ⟨⟩ -
          exact ⟨rfl, rfl, rfl⟩
        · rintro _ ⟨⟩ hunwritable
          cases hwritable.symm.trans hunwritable
    | false =>
        rw [hwritable, if_neg Bool.false_ne_true] at hgenerate
        simp only [htarget, Report.publish_of_error none hgenerate]
        refine ⟨fun _ he => (by cases he), ?_, ?_⟩
        · rintro _ ⟨⟩ hpage
          cases hwritable.symm.trans hpage
        · rintro _ ⟨⟩ -
          exact ⟨rfl, rfl, rfl⟩

theorem setUp_eq_ok (r : Run) {s : Settings} {threshold : Nat}
    (h : Log.readThreshold s.logLevel = .ok threshold) :
    ∃ ready, r.setUp s = .ok ready ∧ ready.scene = r.scene ∧ ready.files = r.files := by
  simp only [Run.setUp, Log.State.configure, h]
  exact ⟨_, rfl, rfl, rfl⟩

theorem setUp_eq_error (r : Run) {s : Settings} {e : Log.LevelError}
    (h : Log.readThreshold s.logLevel = .error e) :
    ∃ outcome, r.setUp s = .error outcome ∧ outcome.Fails := by
  simp only [Run.setUp, Log.State.configure, h]
  exact ⟨_, rfl, rfl, rfl⟩

/-- A command line that asks for something is answered in its scene, once logging is set up. -/
theorem run_of_asks {scene : Scene} {args : List String} {request : Request} {base : Settings}
    (hbase : Settings.fromSurroundings scene.surroundings Mapping.empty = .ok base)
    (h : Asks scene args request) :
    (∃ e, Log.readThreshold base.logLevel = .error e ∧ (run scene args).Fails) ∨
    ∃ threshold c rest ready, Log.readThreshold base.logLevel = .ok threshold ∧
      run scene args = Run.command ready c rest ∧ ready.scene = (Run.start scene args).scene ∧
      Request.read ready.files ready.scene.input c rest = .ok request := by
  obtain ⟨c, rest, hprogram, hrequest⟩ := h
  have hargs : args.isEmpty = false := by
    rcases args with _ | ⟨arg, args⟩
    · cases hprogram
    · rfl
  let start := (Run.start scene args).note (Settings.notices scene.surroundings Mapping.empty)
  -- The two ways in which setting up logging can end, as steps of the whole run.
  have hfailed : ∀ outcome, start.setUp base = .error outcome → run scene args = outcome := by
    intro outcome hsetUp
    simp only [run, hargs, hprogram, hbase]
    simp only [start] at hsetUp
    rw [hsetUp]
    rfl
  have hready : ∀ ready, start.setUp base = .ok ready →
      run scene args = Run.command ready c rest := by
    intro ready hsetUp
    simp only [run, hargs, hprogram, hbase]
    simp only [start] at hsetUp
    rw [hsetUp]
    rfl
  rcases hlevel : Log.readThreshold base.logLevel with e | threshold
  · obtain ⟨outcome, hsetUp, hfails⟩ := setUp_eq_error start hlevel
    refine Or.inl ⟨e, rfl, ?_⟩
    rw [hfailed outcome hsetUp]
    exact hfails
  · obtain ⟨ready, hsetUp, hscene, hfiles⟩ := setUp_eq_ok start hlevel
    refine Or.inr ⟨threshold, c, rest, ready, rfl, hready ready hsetUp, hscene, ?_⟩
    rw [hfiles, hscene]
    exact hrequest

/-- A command that first looks for its settings goes on with them in its scene. -/
theorem run_withSettings {scene : Scene} {args : List String} {request : Request}
    {base s : Settings}
    (hbase : Settings.fromSurroundings scene.surroundings Mapping.empty = .ok base)
    (h : Asks scene args request) {explicit : List (String × Value)}
    {next : Run → Settings → Outcome}
    (hcommand : ∀ (r : Run) (c : Command) (rest : List String),
      Request.read r.files r.scene.input c rest = .ok request →
        r.command c rest = r.withSettings explicit none next)
    (hfind : ∀ around, Settings.fromSurroundings around Mapping.empty = .ok base →
      Settings.find around explicit none = .ok s) :
    (∃ e, Log.readThreshold base.logLevel = .error e ∧ (run scene args).Fails) ∨
    ∃ threshold r, Log.readThreshold base.logLevel = .ok threshold ∧ run scene args = next r s ∧
      r.scene.program = scene.program ∧ r.scene.width = scene.width := by
  rcases run_of_asks hbase h with hfails |
    ⟨threshold, c, rest, ready, hlevel, hrun, hscene, hrequest⟩
  · exact Or.inl hfails
  · have haround : Settings.fromSurroundings ready.scene.surroundings Mapping.empty = .ok base := by
      rw [hscene]
      exact (Settings.fromSurroundings_run _ _ _ Unreserved.empty).trans hbase
    let notices := Settings.findNotices ready.scene.surroundings explicit none
    refine Or.inr ⟨threshold, ready.note notices, hlevel, ?_, ?_, ?_⟩
    · rw [hrun, hcommand ready c rest hrequest]
      simp only [Run.withSettings, hfind _ haround, notices]
    · change ready.scene.program = scene.program
      rw [hscene]
      rfl
    · change ready.scene.width = scene.width
      rw [hscene]
      rfl

/-- A value for the choice of symbols is laid over the settings of the surroundings. -/
theorem fromSurroundings_includeAll {around : Surroundings} {base : Settings}
    (hbase : Settings.fromSurroundings around Mapping.empty = .ok base) (includeAll : Bool) :
    Settings.fromSurroundings around
        (Mapping.ofList [(SettingName.includeAll.text, .bool includeAll)]) =
      .ok { base with includeAll } := by
  rw [Settings.fromSurroundings_over hbase (unreserved_singleton .includeAll _)]
  simp only [readOver_singleton]
  exact ⟨rfl, rfl, rfl, rfl, rfl, rfl, rfl, rfl⟩

/-- Without its flag a request to render leaves the choice of symbols to the surroundings. -/
theorem find_render {around : Surroundings} {base : Settings}
    (hbase : Settings.fromSurroundings around Mapping.empty = .ok base) (modules : List String)
    (includeAll : Bool) :
    Settings.find around (RenderRequest.explicit { modules, includeAll }) none =
      .ok { base with includeAll := includeAll || base.includeAll } := by
  cases includeAll with
  | false => exact hbase
  | true => exact fromSurroundings_includeAll hbase true

theorem document_of_level_error (scene : Scene) {s : Settings} {e : Log.LevelError}
    (h : Log.readThreshold s.logLevel = .error e) (modules : List String) :
    scene.document s modules = .error (.level e) := by
  rw [Scene.document, h]
  rfl

theorem document_of_level (scene : Scene) {s : Settings} {threshold : Nat}
    (h : Log.readThreshold s.logLevel = .ok threshold) (modules : List String) :
    scene.document s modules = documentOf s scene.program modules := by
  rw [Scene.document, h]
  rfl

/-- A request to count shows the counts of the document that its own flag asks for. -/
theorem showsCounts_run (scene : Scene) {base : Settings}
    (hbase : Settings.fromSurroundings scene.surroundings Mapping.empty = .ok base)
    {args : List String} {q : StatsRequest} (h : Asks scene args (.stats q)) :
    (run scene args).ShowsCounts scene q.json
      (scene.document { base with includeAll := q.includeAll } q.modules) := by
  let s : Settings := { base with includeAll := q.includeAll }
  have hcommand : ∀ (r : Run) (c : Command) (rest : List String),
      Request.read r.files r.scene.input c rest = .ok (.stats q) →
        r.command c rest = r.withSettings q.explicit none fun r s => r.countWith q s := by
    intro r c rest hrequest
    simp only [Run.command, hrequest]
  rcases run_withSettings hbase h hcommand
      (fun _ haround => fromSurroundings_includeAll haround q.includeAll) with
    ⟨e, hlevel, hfails⟩ | ⟨threshold, r, hlevel, hrun, hprogram, hwidth⟩
  · rw [document_of_level_error scene (s := s) hlevel]
    exact showsCounts_of_fails hfails scene _ _
  · rw [document_of_level scene (s := s) hlevel, hrun, ← hprogram]
    exact showsCounts_countWith hwidth q s

/-- A request to render shows the document that its flag or the settings ask for. -/
theorem printsPage_run (scene : Scene) {base : Settings}
    (hbase : Settings.fromSurroundings scene.surroundings Mapping.empty = .ok base)
    {args modules : List String} {includeAll : Bool}
    (h : Asks scene args (.render { modules, includeAll })) :
    (run scene args).PrintsPage base.outputFormat base.pageOptions
      (scene.document { base with includeAll := includeAll || base.includeAll } modules) := by
  let q : RenderRequest := { modules, includeAll }
  let s : Settings := { base with includeAll := includeAll || base.includeAll }
  have hcommand : ∀ (r : Run) (c : Command) (rest : List String),
      Request.read r.files r.scene.input c rest = .ok (.render q) →
        r.command c rest = r.withSettings q.explicit none fun r s => r.renderWith q s := by
    intro r c rest hrequest
    simp only [Run.command, hrequest]
    rfl
  rcases run_withSettings hbase h hcommand
      (fun _ haround => find_render haround modules includeAll) with
    ⟨e, hlevel, hfails⟩ | ⟨threshold, r, hlevel, hrun, hprogram, -⟩
  · rw [document_of_level_error scene (s := s) hlevel]
    exact printsPage_of_fails hfails _ _ _
  · rw [document_of_level scene (s := s) hlevel, hrun, ← hprogram]
    exact printsPage_renderWith (q := q) r rfl s

/-- In surroundings whose settings are valid, a request to count shows the counts of the document
that its own flag asks for, and a request to render shows the document that its flag or the settings
ask for. When the flag is given, or when the settings do not ask for symbols of the host, the counts
are those of the document that is rendered. -/
theorem stats_and_render_documents (scene : Scene) {base : Settings}
    (hbase : Settings.fromSurroundings scene.surroundings Mapping.empty = .ok base)
    {statsArgs renderArgs modules : List String} {includeAll json : Bool}
    (hstats : Asks scene statsArgs (.stats { modules, includeAll, json }))
    (hrender : Asks scene renderArgs (.render { modules, includeAll })) :
    (run scene statsArgs).ShowsCounts scene json (scene.document { base with includeAll } modules) ∧
    (run scene renderArgs).PrintsPage base.outputFormat base.pageOptions
      (scene.document { base with includeAll := includeAll || base.includeAll } modules) ∧
    (includeAll = true ∨ base.includeAll = false →
      (run scene renderArgs).PrintsPage base.outputFormat base.pageOptions
        (scene.document { base with includeAll } modules)) ∧
    ∀ d : Document, (statsOf d).total = d.symbolCount := by
  have hpage := printsPage_run scene hbase hrender
  refine ⟨showsCounts_run scene hbase hstats, hpage, fun hagree => ?_,
    fun d => (symbolCount_eq_total d).symm⟩
  have hsame : (includeAll || base.includeAll) = includeAll := by
    rcases hagree with htrue | hfalse
    · rw [htrue, Bool.true_or]
    · rw [hfalse, Bool.or_false]
  rw [hsame] at hpage
  exact hpage

/-- A scene with an empty module and one function of the host, in which the environment asks for
symbols of the host. -/
def hostScene : Scene where
  surroundings := { environment := Mapping.ofList [("SYMREF_INCLUDE_ALL", "true")] }
  program :=
    { Program.bare with
      modules := [{ name := "m", title := .value (.str "m") }]
      host := { Program.bare.host with attributes := [("abs", .function Native.abs.toFunction)] } }

theorem find?_envFile (environment : Mapping String) :
    Surroundings.find? { environment } (.str envFileName) = .ok none := by
  rw [Surroundings.find?_envFileName, Files.find, Files.place_envFileName]
  rfl

theorem hostScene_settings :
    Settings.fromSurroundings hostScene.surroundings Mapping.empty =
      .ok { includeAll := true } := by
  have hfile : hostScene.surroundings.usualFile = .ok Mapping.empty := by
    rw [Surroundings.usualFile, Surroundings.envVariables, hostScene, find?_envFile]
    rfl
  have hsources : hostScene.surroundings.usualSources Mapping.empty Mapping.empty =
      { environment := Mapping.ofList
          [("symref_" ++ SettingName.includeAll.text, some "true")] } := by
    have hlower : Text.lower "SYMREF_INCLUDE_ALL".toList =
        ("symref_" ++ SettingName.includeAll.text).toList := by
      rw [Text.lower_ascii (by decide)]
      decide
    rw [← String.ofList_toList (s := "symref_" ++ SettingName.includeAll.text), ← hlower]
    rfl
  have hvalue := fun name => Sources.value?_variable .includeAll name "true"
  refine (Settings.fromSurroundings_eq_ok_iff Unreserved.empty).mpr ⟨Mapping.empty, hfile, ?_⟩
  rw [hsources, Settings.load_eq_ok_iff]
  refine ⟨(Sources.read_of_some (hvalue .includeAll) _ _).trans rfl, ?_⟩
  refine ⟨?_, ?_, ?_, ?_, ?_, ?_, ?_⟩
  all_goals exact Sources.read_of_none (hvalue _) _ _

theorem readThreshold_info : Log.readThreshold "INFO" = .ok 20 := by
  rw [Log.readThreshold, Text.upper_ascii (by decide)]
  rfl

theorem hostScene_document {includeAll : Bool} {counts : Counts}
    (h : ((documentOf { includeAll } hostScene.program ["m"]).toOption.map fun d =>
      (d.counts, d.isWritable {})) = some (counts, true)) :
    ∃ d, hostScene.document { includeAll } ["m"] = .ok d ∧ d.counts = counts ∧
      d.isWritable {} = true := by
  rw [document_of_level hostScene (s := { includeAll }) readThreshold_info]
  rcases hdocument : documentOf { includeAll } hostScene.program ["m"] with e | d
  · rw [hdocument] at h
    cases h
  · rw [hdocument] at h
    obtain ⟨hcounts, hwritable⟩ := Prod.mk.inj (Option.some.inj h)
    exact ⟨d, rfl, hcounts, hwritable⟩

theorem hostScene_document_user :
    ∃ d, hostScene.document { includeAll := false } ["m"] = .ok d ∧ d.counts = ⟨0, 0, 0, 0⟩ ∧
      d.isWritable {} = true :=
  hostScene_document (by decide +kernel)

theorem hostScene_document_all :
    ∃ d, hostScene.document { includeAll := true } ["m"] = .ok d ∧ d.counts = ⟨1, 0, 0, 0⟩ ∧
      d.isWritable {} = true :=
  hostScene_document (by decide +kernel)

theorem asks_names_flags (scene : Scene) (c : Command) (names : List String)
    (flags : List OptionName) {request : Request}
    (hnames : ∀ name ∈ names, name.toList.head? ≠ some '-')
    (hflags : ∀ o ∈ flags, o ∈ c.options ∧ o.takesValue = false)
    (h : Request.ofArguments scene.surroundings.files scene.input c
      { given := flags.map fun o => (o, none), rest := names } = .ok request) :
    Asks scene (c.name :: (names ++ flags.map OptionName.long)) request := by
  refine ⟨c, _, ProgramRequest.read_command c _, ?_⟩
  rw [Request.read, Arguments.read_names_flags hnames hflags]
  exact h

theorem asks_stats_all (scene : Scene) :
    Asks scene ["stats", "m", "--all"] (.stats { modules := ["m"], includeAll := true }) :=
  asks_names_flags scene .stats ["m"] [.all] (by decide) (by decide) rfl

theorem asks_render_all (scene : Scene) :
    Asks scene ["render", "m", "--all"] (.render { modules := ["m"], includeAll := true }) :=
  asks_names_flags scene .render ["m"] [.all] (by decide) (by decide) rfl

theorem asks_stats_json (scene : Scene) :
    Asks scene ["stats", "m", "--json"] (.stats { modules := ["m"], json := true }) :=
  asks_names_flags scene .stats ["m"] [.json] (by decide) (by decide) rfl

theorem asks_render (scene : Scene) :
    Asks scene ["render", "m"] (.render { modules := ["m"] }) :=
  asks_names_flags scene .render ["m"] [] (by decide) (by decide) rfl

/-- With the flag the counts are those of the document that is rendered. -/
theorem stats_and_render_documents_with_flag :
    (∃ d, hostScene.document { includeAll := true } ["m"] = .ok d ∧ d.counts = ⟨1, 0, 0, 0⟩ ∧
      d.isWritable {} = true) ∧
    (run hostScene ["stats", "m", "--all"]).ShowsCounts hostScene false
      (hostScene.document { includeAll := true } ["m"]) ∧
    (run hostScene ["render", "m", "--all"]).PrintsPage .html {}
      (hostScene.document { includeAll := true } ["m"]) := by
  obtain ⟨hcounts, -, hpage, -⟩ :=
    stats_and_render_documents hostScene hostScene_settings (asks_stats_all _) (asks_render_all _)
  exact ⟨hostScene_document_all, hcounts, hpage (Or.inl rfl)⟩

/-- Without the flag the environment decides what is rendered, and not what is counted. -/
theorem stats_omits_symbols_of_environment :
    Settings.fromSurroundings hostScene.surroundings Mapping.empty = .ok { includeAll := true } ∧
    Asks hostScene ["stats", "m", "--json"] (.stats { modules := ["m"], json := true }) ∧
    Asks hostScene ["render", "m"] (.render { modules := ["m"] }) ∧
    ∃ counted rendered : Document,
      (run hostScene ["stats", "m", "--json"]).ShowsCounts hostScene true (.ok counted) ∧
      (run hostScene ["render", "m"]).PrintsPage .html {} (.ok rendered) ∧
      counted.counts = ⟨0, 0, 0, 0⟩ ∧ rendered.counts = ⟨1, 0, 0, 0⟩ ∧
      rendered.isWritable {} = true := by
  obtain ⟨counted, hcounted, hnone, -⟩ := hostScene_document_user
  obtain ⟨rendered, hrendered, hone⟩ := hostScene_document_all
  have hcounts := showsCounts_run hostScene hostScene_settings (asks_stats_json _)
  have hpage := printsPage_run hostScene hostScene_settings (asks_render _)
  refine ⟨hostScene_settings, asks_stats_json _, asks_render _, counted, rendered, ?_, ?_, hnone,
    hone⟩
  · rw [← hcounted]
    exact hcounts
  · rw [← hrendered]
    exact hpage

end SymbolReference.Cli

import SymbolReference.Log.Line
import SymbolReference.Proofs.Mapping
import SymbolReference.Report.Trace

namespace SymbolReference

namespace Log

/-- What is done while messages are logged. An exception ends everything around it up to an attempt,
which catches it. -/
inductive Activity where
  | emit (m : Message)
  | note (line : String)
  | raise
  | scope (bindings : List (String × Value)) (body : List Activity)
  | attempt (body : List Activity)

/-- The name that no scope can bind, since the function that opens scopes has it for itself. -/
def takenName : String := "self"

mutual

/-- The steps of an activity, and whether it ends without an exception. A scope is left however its
body ends. -/
def Activity.trace : Activity → List Step × Bool
  | .emit m => ([.emit m], true)
  | .note line => ([.note line], true)
  | .raise => ([], false)
  | .scope bindings body =>
    if (bindings.map Prod.fst).contains takenName then ([.enter bindings], false)
    else (.enter bindings :: (Activity.traceAll body).1 ++ [.leave], (Activity.traceAll body).2)
  | .attempt body => ((Activity.traceAll body).1, true)

def Activity.traceAll : List Activity → List Step × Bool
  | [] => ([], true)
  | first :: others =>
    if first.trace.2 then
      (first.trace.1 ++ (Activity.traceAll others).1, (Activity.traceAll others).2)
    else (first.trace.1, false)

end

/-- The names that are bound on the way through some steps. -/
def Step.boundNames (steps : List Step) : List String :=
  steps.flatMap fun step =>
    match step with
    | .enter bindings =>
      if (bindings.map Prod.fst).contains takenName then [] else bindings.map Prod.fst
    | _ => []

namespace State

def after (s : State) (stamp : String) (steps : List Step) : State :=
  (s.run stamp steps).1

@[simp] theorem after_nil (s : State) (stamp : String) : s.after stamp [] = s := rfl

@[simp] theorem after_cons (s : State) (stamp : String) (next : Step) (others : List Step) :
    s.after stamp (next :: others) = (s.step stamp next).1.after stamp others := by
  simp only [after, run]
  cases (s.step stamp next).2 with
  | ok lines => rfl
  | error e => rfl

theorem after_append (s : State) (stamp : String) (steps others : List Step) :
    s.after stamp (steps ++ others) = (s.after stamp steps).after stamp others := by
  induction steps generalizing s with
  | nil => rfl
  | cons next steps ih => rw [List.cons_append, after_cons, after_cons, ih]

theorem find?_takenName {bindings : List (String × Value)} (h : takenName ∉ bindings.map Prod.fst) :
    (bindings.find? fun entry => entry.1 = "self") = none := by
  rw [List.find?_eq_none]
  intro entry hentry hname
  have htaken : entry.1 = takenName := of_decide_eq_true hname
  exact h (htaken ▸ List.mem_map_of_mem hentry)

theorem step_enter (s : State) (stamp : String) {bindings : List (String × Value)}
    (h : takenName ∉ bindings.map Prod.fst) :
    s.step stamp (.enter bindings) = (s.enter bindings, .ok []) := by
  simp only [step, find?_takenName h]

theorem step_enter_taken (s : State) (stamp : String) {bindings : List (String × Value)}
    (h : takenName ∈ bindings.map Prod.fst) : (s.step stamp (.enter bindings)).1 = s := by
  rw [step]
  split
  · rfl
  · rename_i hnone
    obtain ⟨entry, hentry, hname⟩ := List.mem_map.mp h
    exact absurd (decide_eq_true hname) (List.find?_eq_none.mp hnone entry hentry)

/-- The state with some names unbound. -/
def unbind (s : State) (names : List String) : State :=
  { s with bound := s.bound.eraseAll names }

theorem unbind_unbind (s : State) (names others : List String) :
    (s.unbind names).unbind others = s.unbind (names ++ others) := by
  simp only [unbind, Mapping.eraseAll_eraseAll]

theorem leave_unbind_enter (s : State) (bindings : List (String × Value)) (names : List String) :
    ((s.enter bindings).unbind names).leave = s.unbind (bindings.map Prod.fst ++ names) := by
  have hbound : ((s.bound.update bindings).eraseAll names).eraseAll (bindings.map Prod.fst) =
      s.bound.eraseAll (bindings.map Prod.fst ++ names) := by
    rw [Mapping.eraseAll_eraseAll, Mapping.eraseAll_append_comm, Mapping.eraseAll_update]
    intro entry hentry
    exact List.mem_append_left names (List.mem_map_of_mem hentry)
  exact congrArg (fun bound => { s with bound }) hbound

end State

theorem Step.boundNames_append (steps others : List Step) :
    Step.boundNames (steps ++ others) = Step.boundNames steps ++ Step.boundNames others :=
  List.flatMap_append

theorem Step.boundNames_scope {bindings : List (String × Value)}
    (h : takenName ∉ bindings.map Prod.fst) (steps : List Step) :
    Step.boundNames (.enter bindings :: steps ++ [.leave]) =
      bindings.map Prod.fst ++ Step.boundNames steps := by
  simp [Step.boundNames, h]

mutual

/-- What an activity leaves behind: the state from before, without the names bound on the way. -/
theorem State.after_trace (stamp : String) : (a : Activity) → (s : State) →
    s.after stamp a.trace.1 = s.unbind (Step.boundNames a.trace.1)
  | .emit m, s => by
      rw [Activity.trace, State.after_cons]
      rfl
  | .note line, s => by
      rw [Activity.trace, State.after_cons]
      rfl
  | .raise, s => rfl
  | .attempt body, s => State.after_traceAll stamp body s
  | .scope bindings body, s => by
      rw [Activity.trace]
      split
      case isTrue htaken =>
        have hmem : takenName ∈ bindings.map Prod.fst := List.contains_iff_mem.mp htaken
        have hnames : Step.boundNames [.enter bindings] = [] := by
          simp [Step.boundNames, hmem]
        rw [hnames, State.after_cons, State.step_enter_taken s stamp hmem]
        rfl
      case isFalse htaken =>
        have hmem : takenName ∉ bindings.map Prod.fst := fun h =>
          htaken (List.contains_iff_mem.mpr h)
        -- The body runs in the state after entering the scope, not in the state from before.
        rw [Step.boundNames_scope hmem, ← State.leave_unbind_enter,
          ← State.after_traceAll stamp body (s.enter bindings), List.cons_append,
          State.after_cons, State.step_enter s stamp hmem, State.after_append, State.after_cons]
        rfl

theorem State.after_traceAll (stamp : String) : (activities : List Activity) → (s : State) →
    s.after stamp (Activity.traceAll activities).1 =
      s.unbind (Step.boundNames (Activity.traceAll activities).1)
  | [], s => rfl
  | first :: others, s => by
      rw [Activity.traceAll]
      split
      · rw [State.after_append, State.after_trace stamp first s,
          State.after_traceAll stamp others, State.unbind_unbind, Step.boundNames_append]
      · exact State.after_trace stamp first s

end

theorem State.bound_after_traceAll_eq_iff (s : State) (stamp : String) (body : List Activity) :
    (s.after stamp (Activity.traceAll body).1).bound = s.bound ↔
      ∀ name ∈ Step.boundNames (Activity.traceAll body).1, name ∉ s.bound.names := by
  rw [State.after_traceAll]
  exact Mapping.eraseAll_eq_self_iff _ _

theorem Activity.trace_scope {bindings : List (String × Value)}
    (h : takenName ∉ bindings.map Prod.fst) (body : List Activity) :
    (Activity.scope bindings body).trace.1 =
      .enter bindings :: (Activity.traceAll body).1 ++ [.leave] := by
  rw [Activity.trace, if_neg fun hcontains => h (List.contains_iff_mem.mp hcontains)]

/-- Inside a scope the bound values are those from before updated with its own. They stay so until the
end of the body exactly if no scope inside binds a bound name; and after the scope, however its body
ends, they are those from before exactly if neither the scope nor one inside it has bound a name that
was bound before. -/
theorem scope_restores_iff (s : State) (stamp : String) {bindings : List (String × Value)}
    (h : takenName ∉ bindings.map Prod.fst) (body : List Activity) :
    let inside := s.after stamp [.enter bindings]
    let within := (Activity.traceAll body).1
    inside.bound = s.bound.update bindings ∧
    ((inside.after stamp within).bound = s.bound.update bindings ↔
      ∀ name ∈ Step.boundNames within, name ∉ (s.bound.update bindings).names) ∧
    ((s.after stamp (Activity.scope bindings body).trace.1).bound = s.bound ↔
      ∀ name ∈ bindings.map Prod.fst ++ Step.boundNames within, name ∉ s.bound.names) := by
  have hinside : s.after stamp [.enter bindings] = s.enter bindings := by
    rw [State.after_cons, State.step_enter s stamp h, State.after_nil]
  refine ⟨by rw [hinside]; rfl, ?_, ?_⟩
  · rw [hinside]
    exact State.bound_after_traceAll_eq_iff _ stamp body
  · rw [← Step.boundNames_scope h, ← Activity.trace_scope h, State.after_trace]
    exact Mapping.eraseAll_eq_self_iff _ _

/-- A host that has bound the name of its report keeps it over a scope with other names, though an
exception ends a scope inside. -/
theorem scope_restores_report :
    let s := ({} : State).enter [("report", .str "api")]
    let body := [Activity.attempt [.scope [("path", .str "a.md")] [.raise]]]
    takenName ∉ ["output_format"] ∧
    (s.after "" (Activity.scope [("output_format", .str "html")] body).trace.1).bound = s.bound :=
  ⟨by decide, (scope_restores_iff _ _ (by decide) _).2.2.mpr (by decide)⟩

/-- A value that a scope covers is lost when the scope is left. -/
theorem scope_forgets_covered_value :
    let s := ({} : State).enter [("output_format", .str "pdf")]
    s.bound.get? "output_format" = some (.str "pdf") ∧
    (s.after "" [.enter [("output_format", .str "html")], .leave]).bound.get? "output_format" =
      none :=
  ⟨rfl, rfl⟩

end Log

theorem Log.Activity.traceAll_emit (messages : List Log.Message) :
    (Log.Activity.traceAll (messages.map .emit)).1 = messages.map .emit := by
  induction messages with
  | nil => rfl
  | cons m messages ih =>
      rw [List.map_cons, Log.Activity.traceAll, ih]
      rfl

namespace Report

theorem buildTrace_eq_emits (s : Settings) (inventory : Option Inventory) :
    ∃ messages : List Log.Message, buildTrace s inventory = messages.map .emit := by
  rcases inventory with _ | i
  · exact ⟨[], rfl⟩
  · exact ⟨_, rfl⟩

theorem renderTrace_eq_emits (s : Settings) (requested : Option String) (d : Option Document) :
    ∃ messages : List Log.Message, renderTrace s requested d = messages.map .emit := by
  rw [renderTrace]
  split
  · exact ⟨[_], rfl⟩
  · exact ⟨[], rfl⟩

/-- What rendering logs while a report is generated. -/
def renderedSteps (s : Settings) (requested : Option String) (inventory : Option Inventory) :
    List Log.Step :=
  match build s inventory with
  | .ok d => renderTrace s requested (some d)
  | .error _ => []

/-- What writing logs while a report is generated. -/
def writtenSteps (s : Settings) (files : Files) (requested path : Option String)
    (inventory : Option Inventory) : List Log.Step :=
  match (publish s files requested path inventory).2, path with
  | .ok text, some path => [.emit (referenceWritten path text)]
  | _, _ => []

theorem renderedSteps_eq_emits (s : Settings) (requested : Option String)
    (inventory : Option Inventory) :
    ∃ messages : List Log.Message, renderedSteps s requested inventory = messages.map .emit := by
  rw [renderedSteps]
  cases build s inventory with
  | ok d => exact renderTrace_eq_emits s requested (some d)
  | error e => exact ⟨[], rfl⟩

theorem writtenSteps_eq_emits (s : Settings) (files : Files) (requested path : Option String)
    (inventory : Option Inventory) :
    ∃ messages : List Log.Message,
      writtenSteps s files requested path inventory = messages.map .emit := by
  unfold writtenSteps
  generalize (publish s files requested path inventory).2 = published
  rcases published with e | text
  · exact ⟨[], rfl⟩
  · rcases path with _ | path
    · exact ⟨[], rfl⟩
    · exact ⟨[_], rfl⟩

theorem publishTrace_eq_trace (s : Settings) (files : Files) (requested path : Option String)
    (inventory : Option Inventory) :
    ∃ messages : List Log.Message, publishTrace s files requested path inventory =
      (Log.Activity.scope [("output_format", .str (s.formatName requested)),
        ("include_all", .bool s.includeAll)] (messages.map .emit)).trace.1 := by
  obtain ⟨built, hbuilt⟩ := buildTrace_eq_emits s inventory
  obtain ⟨rendered, hrendered⟩ := renderedSteps_eq_emits s requested inventory
  obtain ⟨written, hwritten⟩ := writtenSteps_eq_emits s files requested path inventory
  refine ⟨built ++ rendered ++ written, ?_⟩
  rw [Log.Activity.trace_scope (by simp [Log.takenName]), Log.Activity.traceAll_emit,
    List.map_append, List.map_append, ← hbuilt, ← hrendered, ← hwritten]
  rfl

/-- Generating a report keeps the values that its host has bound exactly if none of them has a name
that the report binds for itself. -/
theorem bound_after_publishTrace_eq_iff (log : Log.State) (stamp : String) (s : Settings)
    (files : Files) (requested path : Option String) (inventory : Option Inventory) :
    (log.after stamp (publishTrace s files requested path inventory)).bound = log.bound ↔
      "output_format" ∉ log.bound.names ∧ "include_all" ∉ log.bound.names := by
  obtain ⟨messages, htrace⟩ := publishTrace_eq_trace s files requested path inventory
  have hnames : Log.Step.boundNames (messages.map .emit) = [] := by
    simp [Log.Step.boundNames]
  have hfree : Log.takenName ∉ [("output_format", Value.str (s.formatName requested)),
      ("include_all", .bool s.includeAll)].map Prod.fst := by
    simp [Log.takenName]
  rw [htrace, Log.State.after_trace, Log.Activity.trace_scope hfree,
    Log.Step.boundNames_scope hfree, Log.Activity.traceAll_emit, hnames]
  refine (Mapping.eraseAll_eq_self_iff _ _).trans ?_
  simp

end Report

end SymbolReference

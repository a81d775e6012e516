import SymbolReference.Inspection.Look
import SymbolReference.Inspection.Native
import SymbolReference.Proofs.Inspection.Findings

/-!
Looking at modules may fail by itself, before anything is found. Where it does not fail, a document
is made of what is found unless a class without a name would be shown with a method.
-/

namespace SymbolReference

theorem Look.fault_all (looks : List Look) : (Look.all looks).fault = looks.findSome? Look.fault := by
  induction looks with
  | nil => rfl
  | cons first others ih =>
      rw [Look.all, List.findSome?_cons]
      cases hfault : first.fault with
      | none => exact ih
      | some e => exact hfault

theorem Look.fault_all_eq_none_iff (looks : List Look) :
    (Look.all looks).fault = none ↔ ∀ l ∈ looks, l.fault = none := by
  rw [Look.fault_all, List.findSome?_eq_none_iff]

namespace Program

section Looks

variable (p : Program) (modules : List ModuleObject) (withHost : Bool)

/-- A look at a module fails only when its members cannot be listed or one of its classes cannot be
looked at. -/
theorem fault_lookAtModule_eq_none_iff (m : ModuleObject) (functions : List FunctionObject)
    (classes : List ClassObject) :
    (p.lookAtModule m functions classes).fault = none ↔
      m.listingFault? = none ∧ ∀ c ∈ classes, (p.lookAtClass c).fault = none := by
  have hfunction : ∀ f, (p.lookAtFunction f).fault = none := fun _ => rfl
  have hmodule : (Look.ofFault? (m.listingFault?)).fault = m.listingFault? := rfl
  simp only [lookAtModule, Look.fault_all_eq_none_iff, List.mem_append, List.mem_cons,
    List.mem_map, or_imp, forall_and, forall_eq, forall_exists_index, and_imp,
    forall_apply_eq_imp_iff₂, hfunction, hmodule, implies_true, and_true]

/-- A look at a class fails only when what a method says its module is cannot be looked up, or the
class cannot be placed. -/
theorem fault_lookAtClass_eq_none_iff (c : ClassObject) :
    (p.lookAtClass c).fault = none ↔
      (∀ entry ∈ methodsIn (p.ancestry c), (p.lookAtMethod entry.2).fault = none) ∧
        (p.lookAtPlace c).fault = none := by
  simp only [lookAtClass, Look.fault_all_eq_none_iff, List.forall_mem_append, List.forall_mem_map,
    List.forall_mem_singleton]

theorem fault_look_eq_none_iff :
    (p.look modules withHost).fault = none ↔
      (∀ m ∈ modules, titleFault? m = none) ∧
      (∀ m ∈ modules, (p.lookAtModule m m.functions (p.classesOf m)).fault = none) ∧
      (withHost = true →
        (p.lookAtModule p.host p.host.natives (p.allClassesOf p.host)).fault = none) ∧
      ∃ found, sortedTitles p modules = .ok found := by
  have hofFault : ∀ fault, (Look.ofFault? fault).fault = fault := fun _ => rfl
  have hhost : (∀ l ∈ if withHost = true then
        [p.lookAtModule p.host p.host.natives (p.allClassesOf p.host)] else [], l.fault = none) ↔
      (withHost = true →
        (p.lookAtModule p.host p.host.natives (p.allClassesOf p.host)).fault = none) := by
    cases withHost with
    | false => simp
    | true => simp
  simp only [look, Look.fault_all_eq_none_iff, List.forall_mem_append, List.forall_mem_map,
    List.forall_mem_singleton, hofFault, hhost, and_assoc]
  cases sortedTitles p modules with
  | ok found => simp
  | error e => simp

theorem mem_classes_of_mem_ancestry {p : Program} {b c : ClassObject} (h : b ∈ p.ancestry c) :
    b ∈ p.classes := by
  obtain ⟨number, -, hclass⟩ := List.mem_filterMap.mp h
  exact List.mem_of_getElem? hclass

/-- Where every class of the program can be placed and every method says something that can be looked
up, only the modules themselves can be at fault. -/
theorem fault_look_of_placed {p : Program} {modules : List ModuleObject}
    (htold : ∀ c ∈ p.classes, ∀ entry ∈ c.attributes,
      entry.2.methodFunction?.all (fun f => f.module.unhashable?.isNone) = true)
    (hplaced : ∀ c ∈ p.classes, (p.lookAtPlace c).fault = none)
    (hhost : p.host.listingFault? = none)
    (hmodules : ∀ m ∈ modules, titleFault? m = none ∧ m.listingFault? = none)
    (hsorted : ∃ found, sortedTitles p modules = .ok found) (withHost : Bool) :
    (p.look modules withHost).fault = none := by
  have hclass : ∀ c ∈ p.classes, (p.lookAtClass c).fault = none := by
    intro c hc
    refine (p.fault_lookAtClass_eq_none_iff c).mpr ⟨fun entry hentry => ?_, hplaced c hc⟩
    obtain ⟨b, hb, o, ho, hfunction⟩ := exists_of_mem_methodsIn hentry
    have hmodule := htold b (mem_classes_of_mem_ancestry hb) _ ho
    rw [hfunction, Option.all_some, Option.isNone_iff_eq_none] at hmodule
    rw [lookAtMethod, hmodule]
    cases entry.2.make with
    | _ => rfl
  simp only [fault_look_eq_none_iff, fault_lookAtModule_eq_none_iff]
  refine ⟨fun m hm => (hmodules m hm).1, fun m hm => ⟨(hmodules m hm).2, fun c hc => ?_⟩,
    fun _ => ⟨hhost, fun c hc => ?_⟩, hsorted⟩
  · exact hclass c (mem_classes_of_mem_allClassesOf (List.mem_of_mem_filter hc))
  · exact hclass c (mem_classes_of_mem_allClassesOf hc)

end Looks

end Program

/-- Why inspected modules come to no document: looking at them fails, or what is found makes up no
document. -/
inductive Undocumented where
  | inspection (e : ObjectError)
  | build (e : DocumentError)

namespace Program

def documentOf (p : Program) (modules : List ModuleObject) (withHost includeAll : Bool) :
    Except Undocumented Document :=
  match (p.look modules withHost).fault with
  | some e => .error (.inspection e)
  | none =>
    (Document.build includeAll (p.inspect modules withHost).inventory).mapError .build

variable {p : Program} {modules : List ModuleObject} {withHost includeAll : Bool}

theorem documentOf_of_fault {e : ObjectError} (h : (p.look modules withHost).fault = some e) :
    p.documentOf modules withHost includeAll = .error (.inspection e) := by
  rw [documentOf, h]

theorem documentOf_of_look (h : (p.look modules withHost).fault = none) :
    p.documentOf modules withHost includeAll =
      (Document.build includeAll (p.inspect modules withHost).inventory).mapError .build := by
  rw [documentOf, h]

theorem documentOf_eq_ok_iff {d : Document} :
    p.documentOf modules withHost includeAll = .ok d ↔
      (p.look modules withHost).fault = none ∧ ¬p.ShowsNameless modules withHost includeAll ∧
        d = (p.inspect modules withHost).inventory.document includeAll := by
  cases hfault : (p.look modules withHost).fault with
  | some e =>
      rw [documentOf_of_fault hfault]
      simp
  | none =>
      rw [documentOf_of_look hfault]
      by_cases hnameless : p.ShowsNameless modules withHost includeAll
      · obtain ⟨reason, hbuild, -⟩ := build_inspect_of_nameless hnameless
        rw [hbuild]
        simp [Except.mapError, hnameless]
      · rw [build_inspect_of_not hnameless]
        simp [Except.mapError, hnameless, eq_comm]

end Program

def hostBase : ClassObject where
  name := "Base"
  fullName := "Base"
  order := [1, Root.number]
  attributes :=
    [("__module__", .value (.str hostName)), ("size", .function Native.len.toFunction)]

def liftFunction : FunctionObject where
  name := "lift"
  module := .str "m"

/-- A class without a name. It descends from the class of the host and has a method of its own. -/
def namelessClass : ClassObject where
  name := ""
  fullName := ""
  order := [2, 1, Root.number]
  attributes := [("__module__", .value (.str "m")), ("lift", .function liftFunction)]

def namelessModule : ModuleObject where
  name := "m"
  title := .value (.str "m")
  attributes := [("Crane", .klass 2)]

theorem plain_namelessModule : namelessModule.Plain :=
  ⟨rfl, by decide, by decide⟩

def namelessProgram : Program where
  classes := [Root.root, hostBase, namelessClass]
  modules := [namelessModule]
  host :=
    { name := hostName
      title := .value (.str hostName)
      attributes := [("abs", .function Native.abs.toFunction), ("Base", .klass 1)] }

theorem ModuleObject.Plain.listingFault? {m : ModuleObject} (h : m.Plain) :
    m.listingFault? = none := by
  rw [ModuleObject.listingFault?, h.members]

theorem fault_look_namelessModule (withHost : Bool) :
    (namelessProgram.look [namelessModule] withHost).fault = none := by
  refine Program.fault_look_of_placed (by decide +kernel) (by decide +kernel)
    (ModuleObject.Plain.listingFault? ⟨rfl, by decide, by decide⟩) ?_ ⟨_, rfl⟩ withHost
  rw [List.forall_mem_singleton]
  exact ⟨rfl, plain_namelessModule.listingFault?⟩

theorem fault_look_namelessHost :
    (namelessProgram.lookAtModule namelessProgram.host namelessProgram.host.natives
      (namelessProgram.allClassesOf namelessProgram.host)).fault = none :=
  ((namelessProgram.fault_look_eq_none_iff [namelessModule] true).mp
    (fault_look_namelessModule true)).2.2.1 rfl

theorem showsNameless_namelessModule :
    namelessProgram.ShowsNameless [namelessModule] true false := by
  refine ⟨namelessClass, ?_, rfl, List.ne_nil_of_mem (a := ("lift", liftFunction)) ?_⟩
  · have hall : namelessClass ∈ namelessProgram.allClassesOf namelessModule :=
      Program.mem_allClassesOf.mpr
        ⟨"Crane", 2, plain_namelessModule.mem_found_iff.mpr List.mem_cons_self, rfl⟩
    have hclass : namelessClass ∈ namelessProgram.classesOf namelessModule :=
      List.mem_filter.mpr ⟨hall, by decide +kernel⟩
    exact List.mem_append_left _ (List.mem_flatMap_of_mem List.mem_cons_self hclass)
  · have hancestry : namelessClass ∈ namelessProgram.ancestry namelessClass := List.mem_cons_self
    have hmethod : method? (namelessProgram.ancestry namelessClass) "lift" = some liftFunction := rfl
    exact List.mem_filter.mpr ⟨mem_methodsIn hancestry (by decide) hmethod, by decide +kernel⟩

/-- A module that lists its names by a number, which cannot be called. -/
def unlistableModule (name : String) : ModuleObject where
  name := name
  title := .value (.str name)
  attributes := [("__dir__", .value (.int 5))]
  listing := some (.error (.uncallable "'int' object is not callable"))

def unlistableProgram : Program :=
  { Program.bare with modules := [unlistableModule "m"], host := unlistableModule hostName }

namespace Program

/-- Where the look at modules does not fail, a document is made of what is found, unless a class
without a name would be shown with a method; nothing else is ever wrong with what is found. -/
theorem documentOf_ok_iff_not_showsNameless {p : Program} {modules : List ModuleObject}
    {withHost includeAll : Bool} (h : (p.look modules withHost).fault = none) :
    ((∃ d, p.documentOf modules withHost includeAll = .ok d) ↔
      ¬p.ShowsNameless modules withHost includeAll) ∧
    ∀ e, p.documentOf modules withHost includeAll = .error e →
      ∃ reason f, e = .build reason ∧ reason.failure = .fault f ∧ f.kind = .symbolInvariant := by
  constructor
  · constructor
    · rintro ⟨d, hd⟩
      exact (documentOf_eq_ok_iff.mp hd).2.1
    · intro hnamed
      exact ⟨_, documentOf_eq_ok_iff.mpr ⟨h, hnamed, rfl⟩⟩
  · intro e he
    by_cases hnameless : p.ShowsNameless modules withHost includeAll
    · obtain ⟨reason, hbuild, f, hf⟩ := build_inspect_of_nameless hnameless
      rw [documentOf_of_look h, hbuild] at he
      cases he
      exact ⟨reason, f, rfl, hf⟩
    · rw [documentOf_eq_ok_iff.mpr ⟨h, hnameless, rfl⟩] at he
      cases he

/-- A class without a name is found, and no document is made. -/
theorem documentOf_namelessModule :
    (namelessProgram.look [namelessModule] true).fault = none ∧
    ∃ reason f, namelessProgram.documentOf [namelessModule] true false = .error (.build reason) ∧
      reason.failure = .fault f ∧ f.kind = .symbolInvariant := by
  obtain ⟨hiff, hreason⟩ :=
    @documentOf_ok_iff_not_showsNameless namelessProgram [namelessModule] true false
      (fault_look_namelessModule true)
  refine ⟨fault_look_namelessModule true, ?_⟩
  cases hresult : namelessProgram.documentOf [namelessModule] true false with
  | ok d => exact absurd showsNameless_namelessModule (hiff.mp ⟨d, hresult⟩)
  | error e =>
      obtain ⟨reason, f, rfl, hf⟩ := hreason e hresult
      exact ⟨reason, f, rfl, hf⟩

/-- A module whose names cannot be listed comes to no document, although no class is without a
name. -/
theorem documentOf_unlistableModule :
    ¬unlistableProgram.ShowsNameless [unlistableModule "m"] false false ∧
    unlistableProgram.documentOf [unlistableModule "m"] false false =
      .error (.inspection (.uncallable "'int' object is not callable")) := by
  refine ⟨?_, documentOf_of_fault (by decide +kernel)⟩
  rintro ⟨c, hc, -⟩
  obtain ⟨m, hm, hclass⟩ : ∃ m ∈ [unlistableModule "m"], c ∈ unlistableProgram.classesOf m := by
    simpa [shownClasses] using hc
  obtain rfl := List.mem_singleton.mp hm
  obtain ⟨name, number, hmem, -⟩ := mem_allClassesOf.mp (List.mem_of_mem_filter hclass)
  cases hmem

theorem fault_look_withHost {p : Program}
    (h : (p.lookAtModule p.host p.host.natives (p.allClassesOf p.host)).fault = none)
    (modules : List ModuleObject) :
    (p.look modules true).fault = (p.look modules false).fault := by
  simp only [look, Look.fault_all, List.findSome?_append, if_true, Bool.false_eq_true, if_false,
    List.findSome?_cons, List.findSome?_nil, h]

theorem build_user_withHost (p : Program) (modules : List ModuleObject) :
    Document.build false (p.inspect modules true).inventory =
      Document.build false (p.inspect modules false).inventory := by
  have hselect : select false (p.inspect modules true).inventory =
      select false (p.inspect modules false).inventory := by
    simp only [select_inspect, retainedFunctions_inspect, retainedClasses_inspect,
      retainedConstants_inspect, Bool.and_false, Bool.false_eq_true, if_false]
  rw [Document.build, Document.build, hselect]

/-- As long as only user-defined symbols are shown, inspecting the host as well changes nothing:
modules come to the same document or fail in the same way, unless the look at the host fails. -/
theorem documentOf_user_withHost {p : Program}
    (h : (p.lookAtModule p.host p.host.natives (p.allClassesOf p.host)).fault = none)
    (modules : List ModuleObject) :
    p.documentOf modules true false = p.documentOf modules false false := by
  rw [documentOf, documentOf, fault_look_withHost h, build_user_withHost]

/-- A class of the host is a base of the class without a name; both ways end alike. -/
theorem documentOf_user_withHost_nameless :
    (namelessProgram.lookAtModule namelessProgram.host namelessProgram.host.natives
      (namelessProgram.allClassesOf namelessProgram.host)).fault = none ∧
    namelessProgram.documentOf [namelessModule] true false =
      namelessProgram.documentOf [namelessModule] false false :=
  ⟨fault_look_namelessHost, documentOf_user_withHost fault_look_namelessHost [namelessModule]⟩

/-- A host whose names cannot be listed fails an inspection that would come to a document without
it. -/
theorem documentOf_unlistableHost :
    unlistableProgram.documentOf [] true false =
      .error (.inspection (.uncallable "'int' object is not callable")) ∧
    ∃ d, unlistableProgram.documentOf [] false false = .ok d := by
  refine ⟨documentOf_of_fault (by decide +kernel), _,
    documentOf_eq_ok_iff.mpr ⟨by decide +kernel, ?_, rfl⟩⟩
  rintro ⟨c, ⟨⟩, -⟩

end Program

end SymbolReference

import SymbolReference.Proofs.Document.Defects
import SymbolReference.Proofs.Inspection.Members

namespace SymbolReference

/-- What is found for the user and, if the host is inspected too, for the host. -/
def partitioned {α : Type} (withHost : Bool) (user host : α) : List (String × α) :=
  (userPartition, user) :: if withHost then [(hostPartition, host)] else []

section Partitions

variable {α : Type} (withHost : Bool) (user host : α)

theorem toList_partitioned :
    (Mapping.ofList (partitioned withHost user host)).toList = partitioned withHost user host := by
  apply Mapping.toList_ofList
  cases withHost with
  | false => exact List.nodup_singleton userPartition
  | true =>
      show [userPartition, hostPartition].Nodup
      decide

theorem get?_partitioned :
    (Mapping.ofList (partitioned withHost user host)).get? userPartition = some user := by
  rw [Mapping.get?_eq_some_iff, toList_partitioned]
  exact List.mem_cons_self

theorem values_partitioned :
    (Mapping.ofList (partitioned withHost user host)).values =
      user :: if withHost then [host] else [] := by
  have hvalues : (Mapping.ofList (partitioned withHost user host)).values =
      (partitioned withHost user host).map Prod.snd :=
    congrArg (List.map Prod.snd) (toList_partitioned withHost user host)
  rw [hvalues]
  cases withHost with
  | false => rfl
  | true => rfl

end Partitions

theorem symbolsOf_map_symbol (symbols : List Symbol) :
    symbolsOf (symbols.map Entry.symbol) = symbols := by
  rw [symbolsOf, List.filterMap_map]
  exact List.filterMap_some

theorem holdsOnly_map_symbol {kind : Kind} {symbols : List Symbol}
    (h : ∀ s ∈ symbols, s.kind = kind) : HoldsOnly kind (some (symbols.map Entry.symbol)) := by
  intro entry hentry
  obtain ⟨s, hs, rfl⟩ := List.mem_map.mp hentry
  exact h s hs

theorem collectionDefects_of_holdsOnly {kind : Kind} {entries : Option (List Entry)}
    (h : HoldsOnly kind entries) (collection : String) :
    collectionDefects collection kind entries = [] := by
  cases entries with
  | none => exact h.elim
  | some entries =>
      refine List.filterMap_eq_nil_iff.mpr fun ⟨entry, index⟩ hmem => ?_
      have hentry := h entry (List.fst_mem_of_mem_zipIdx hmem)
      cases entry with
      | other v => exact hentry.elim
      | symbol s => exact if_pos hentry

theorem filter_retained_append {includeAll withHost : Bool} {user host : List Symbol}
    (huser : ∀ s ∈ user, s.userDefined = true) (hhost : ∀ s ∈ host, s.userDefined = false) :
    (user ++ if withHost then host else []).filter (fun s => includeAll || s.userDefined) =
      user ++ if withHost && includeAll then host else [] := by
  have hkept : user.filter (fun s => includeAll || s.userDefined) = user :=
    List.filter_eq_self.mpr fun s hs => by simp [huser s hs]
  rw [List.filter_append, hkept]
  cases withHost with
  | false => rfl
  | true =>
      cases includeAll with
      | true => exact congrArg (user ++ ·) (List.filter_eq_self.mpr fun _ _ => rfl)
      | false =>
          have hdropped : host.filter (fun s => false || s.userDefined) = [] :=
            List.filter_eq_nil_iff.mpr fun s hs => by simp [hhost s hs]
          exact congrArg (user ++ ·) hdropped

theorem mem_attributeNames {ancestry : List ClassObject} {name : String} :
    name ∈ attributeNames ancestry ↔ ∃ c ∈ ancestry, name ∈ c.attributes.map Prod.fst := by
  rw [attributeNames, sortedNames, List.mem_eraseDups, List.mem_mergeSort, List.mem_flatMap]

theorem mem_methodsIn {ancestry : List ClassObject} {c : ClassObject} {name : String}
    {f : FunctionObject} (hc : c ∈ ancestry) (hname : name ∈ c.attributes.map Prod.fst)
    (hmethod : method? ancestry name = some f) : (name, f) ∈ methodsIn ancestry := by
  rw [methodsIn, List.mem_filterMap]
  exact ⟨name, mem_attributeNames.mpr ⟨c, hc, hname⟩, by rw [hmethod, Option.map_some]⟩

/-- The function that a definition makes a method of a class. -/
def Object.methodFunction? : Object → Option FunctionObject
  | .function f | .staticMethod f | .classMethod f => some f
  | .klass _ | .module _ | .callable _ | .value _ => none

theorem methodFunction?_of_method? {ancestry : List ClassObject} {name : String}
    {f : FunctionObject} (h : method? ancestry name = some f) :
    ∃ o, attribute? ancestry name = some o ∧ o.methodFunction? = some f := by
  rw [method?] at h
  split at h
  · cases h
  · cases hattribute : attribute? ancestry name with
    | none =>
        rw [hattribute] at h
        cases h
    | some o =>
        rw [hattribute] at h
        refine ⟨o, rfl, ?_⟩
        cases o with
        | function g =>
            dsimp only at h
            split at h
            · cases h
            · exact h
        | staticMethod g => exact h
        | classMethod g => exact h
        | _ => cases h

theorem exists_of_mem_methodsIn {ancestry : List ClassObject} {entry : String × FunctionObject}
    (h : entry ∈ methodsIn ancestry) :
    ∃ c ∈ ancestry, ∃ o, (entry.1, o) ∈ c.attributes ∧ o.methodFunction? = some entry.2 := by
  rw [methodsIn, List.mem_filterMap] at h
  obtain ⟨name, -, hmethod⟩ := h
  obtain ⟨f, hf, rfl⟩ := Option.map_eq_some_iff.mp hmethod
  obtain ⟨o, ho, hfunction⟩ := methodFunction?_of_method? hf
  obtain ⟨c, hc, hown⟩ := List.exists_of_findSome?_eq_some ho
  exact ⟨c, hc, o, mem_of_lookup_reverse hown, hfunction⟩

theorem mem_found_of_mem_functions {m : ModuleObject} {f : FunctionObject}
    (h : f ∈ m.functions) : ∃ name, (name, .function f) ∈ m.found := by
  obtain ⟨⟨name, o⟩, hmem, ho⟩ := List.mem_filterMap.mp h
  cases o with
  | function g =>
      obtain ⟨-, hg⟩ := Option.ite_none_right_eq_some.mp ho
      cases hg
      exact ⟨name, hmem⟩
  | _ => cases ho

theorem mem_found_of_mem_natives {m : ModuleObject} {f : FunctionObject}
    (h : f ∈ m.natives) : ∃ name, (name, .function f) ∈ m.found := by
  obtain ⟨⟨name, o⟩, hmem, ho⟩ := List.mem_filterMap.mp h
  cases o with
  | function g =>
      obtain ⟨-, hg⟩ := Option.ite_none_right_eq_some.mp ho
      cases hg
      exact ⟨name, hmem⟩
  | _ => cases ho

namespace Program

theorem mem_allClassesOf {p : Program} {m : ModuleObject} {c : ClassObject} :
    c ∈ p.allClassesOf m ↔
      ∃ name number, (name, .klass number) ∈ m.found ∧ p.classes[number]? = some c := by
  rw [allClassesOf, List.mem_filterMap]
  constructor
  · rintro ⟨⟨name, o⟩, hmem, ho⟩
    cases o with
    | klass number => exact ⟨name, number, hmem, ho⟩
    | _ => cases ho
  · rintro ⟨name, number, hmem, hclass⟩
    exact ⟨(name, .klass number), hmem, hclass⟩

theorem mem_classes_of_mem_allClassesOf {p : Program} {m : ModuleObject} {c : ClassObject}
    (h : c ∈ p.allClassesOf m) : c ∈ p.classes := by
  obtain ⟨name, number, -, hclass⟩ := mem_allClassesOf.mp h
  exact List.mem_of_getElem? hclass

section Shown

variable (p : Program) (modules : List ModuleObject) (withHost includeAll : Bool)

/-- The classes that a document of modules shows: those of the modules, and those of the host if it
is inspected and everything is included. -/
def shownClasses : List ClassObject :=
  modules.flatMap p.classesOf ++ if withHost && includeAll then p.allClassesOf p.host else []

theorem mem_classes_of_mem_shownClasses {c : ClassObject}
    (h : c ∈ p.shownClasses modules withHost includeAll) : c ∈ p.classes := by
  rcases List.mem_append.mp h with hmem | hmem
  · obtain ⟨m, -, hc⟩ := List.mem_flatMap.mp hmem
    exact mem_classes_of_mem_allClassesOf (List.mem_of_mem_filter hc)
  · split at hmem
    · exact mem_classes_of_mem_allClassesOf hmem
    · cases hmem

/-- The methods of a class that a document shows: all, or those that are written in some modules. -/
def shownMethods (userModules : List Object) (c : ClassObject) : List (String × FunctionObject) :=
  (methodsIn (p.ancestry c)).filter fun entry => includeAll || entry.2.isFrom userModules

/-- A class without a name would be shown with a method. -/
def ShowsNameless : Prop :=
  ∃ c ∈ p.shownClasses modules withHost includeAll,
    c.name = "" ∧ p.shownMethods includeAll (titles modules) c ≠ []

end Shown

section Inventory

variable (p : Program) (modules : List ModuleObject) (withHost includeAll : Bool)

def methodSymbol (userModules : List Object) (c : ClassObject) (entry : String × FunctionObject) :
    Symbol :=
  .leaf (p.declare entry.2 .method entry.1 (some c.name) (entry.2.isFrom userModules))

theorem methods_classSymbol (userModules : List Object) (userDefined : Bool) (c : ClassObject) :
    (p.classSymbol userModules userDefined c).methods =
      some (((methodsIn (p.ancestry c)).map (p.methodSymbol userModules c)).map Entry.symbol) := by
  rw [List.map_map]
  rfl

theorem retainedMethods_classSymbol (userModules : List Object) (userDefined : Bool)
    (c : ClassObject) :
    (p.classSymbol userModules userDefined c).retainedMethods includeAll =
      (p.shownMethods includeAll userModules c).map (p.methodSymbol userModules c) := by
  rw [Symbol.retainedMethods, retainedOf, methods_classSymbol, Option.getD_some,
    symbolsOf_map_symbol, List.filter_map]
  rfl

/-- The symbols of the functions that modules define. -/
def functionSymbols : List Symbol :=
  modules.flatMap fun m => m.functions.map (p.functionSymbol true)

def hostFunctionSymbols : List Symbol :=
  p.host.natives.map (p.functionSymbol false)

/-- The symbols of the classes that modules define. -/
def classSymbols : List Symbol :=
  (modules.flatMap p.classesOf).map (p.classSymbol (titles modules) true)

/-- The symbols of the classes of the host, inspected together with modules. -/
def hostClassSymbols : List Symbol :=
  (p.allClassesOf p.host).map (p.classSymbol (titles modules) false)

theorem classes_inspect :
    (p.inspect modules withHost).classes =
      p.classSymbols modules ++ if withHost then p.hostClassSymbols modules else [] := by
  rw [classSymbols, List.map_flatMap]
  cases withHost with
  | false => exact (List.append_nil _).symm
  | true => rfl

theorem inventory_inspect :
    (p.inspect modules withHost).inventory =
      { functions := some (.ofList (partitioned withHost
          (some ((p.functionSymbols modules).map Entry.symbol))
          (some (p.hostFunctionSymbols.map Entry.symbol))))
        classes := some ((p.classSymbols modules ++
          if withHost then p.hostClassSymbols modules else []).map Entry.symbol)
        constants := some (.ofList (partitioned withHost
          (some (userConstants modules)) (some (hostConstants p.host)))) } := by
  rw [← classes_inspect]
  cases withHost with
  | false => rfl
  | true => rfl

theorem of_mem_functionSymbols {s : Symbol} (h : s ∈ p.functionSymbols modules) :
    s.kind = .function ∧ s.userDefined = true := by
  obtain ⟨m, -, hs⟩ := List.mem_flatMap.mp h
  obtain ⟨f, -, rfl⟩ := List.mem_map.mp hs
  exact ⟨rfl, rfl⟩

theorem kind_of_mem_hostFunctionSymbols {s : Symbol} (h : s ∈ p.hostFunctionSymbols) :
    s.kind = .function := by
  obtain ⟨f, -, rfl⟩ := List.mem_map.mp h
  rfl

theorem of_mem_map_classSymbol {userModules : List Object} {userDefined : Bool}
    {classes : List ClassObject} {s : Symbol}
    (h : s ∈ classes.map (p.classSymbol userModules userDefined)) :
    s.kind = .klass ∧ s.userDefined = userDefined := by
  obtain ⟨c, -, rfl⟩ := List.mem_map.mp h
  exact ⟨rfl, rfl⟩

theorem retainedFunctions_inspect :
    (p.inspect modules withHost).inventory.retainedFunctions includeAll =
      p.functionSymbols modules ++
        if withHost && includeAll then p.hostFunctionSymbols else [] := by
  rw [inventory_inspect]
  cases includeAll with
  | true =>
      simp only [Inventory.retainedFunctions, if_true, values_partitioned, Bool.and_true,
        List.flatMap_cons, Option.getD_some, symbolsOf_map_symbol]
      cases withHost with
      | false => rfl
      | true => simp only [if_true, List.flatMap_singleton, Option.getD_some, symbolsOf_map_symbol]
  | false =>
      simp only [Inventory.retainedFunctions, Bool.false_eq_true, if_false, get?_partitioned,
        Option.join_some, Option.getD_some, symbolsOf_map_symbol, Bool.and_false, List.append_nil]
      exact List.filter_eq_self.mpr fun s hs => (p.of_mem_functionSymbols modules hs).2

theorem retainedClasses_inspect :
    (p.inspect modules withHost).inventory.retainedClasses includeAll =
      p.classSymbols modules ++
        if withHost && includeAll then p.hostClassSymbols modules else [] := by
  rw [inventory_inspect, Inventory.retainedClasses, retainedOf, Option.getD_some,
    symbolsOf_map_symbol]
  exact filter_retained_append (fun s hs => (p.of_mem_map_classSymbol hs).2)
    (fun s hs => (p.of_mem_map_classSymbol hs).2)

theorem retainedConstants_inspect :
    (p.inspect modules withHost).inventory.retainedConstants includeAll =
      if includeAll then
        mergedConstants (some (userConstants modules) ::
          if withHost then [some (hostConstants p.host)] else [])
      else userConstants modules := by
  rw [inventory_inspect]
  simp only [Inventory.retainedConstants, values_partitioned, get?_partitioned, Option.join_some,
    Option.getD_some]

/-- The shown methods of a class without a name, as defects. -/
def namelessMethods (userModules : List Object) (c : ClassObject) : List Defect :=
  if c.name = "" then
    (p.shownMethods includeAll userModules c).map fun entry => .ownerless entry.1
  else []

/-- Every method is reported with the name of its class as its owner, so it has no owner exactly
when the class has no name. -/
theorem methodDefects_classSymbol (userModules : List Object) (userDefined : Bool)
    (c : ClassObject) :
    methodDefects includeAll (p.classSymbol userModules userDefined c) =
      p.namelessMethods includeAll userModules c := by
  have hname : (p.classSymbol userModules userDefined c).name = c.name := rfl
  have hkinds : HoldsOnly .method (p.classSymbol userModules userDefined c).methods := by
    rw [methods_classSymbol]
    refine holdsOnly_map_symbol fun m hm => ?_
    obtain ⟨entry, -, rfl⟩ := List.mem_map.mp hm
    rfl
  rw [methodDefects, collectionDefects_of_holdsOnly hkinds, List.nil_append, ownerlessMethods,
    namelessMethods, hname, retainedMethods_classSymbol]
  by_cases hempty : c.name = ""
  · have howner : ∀ entry, (p.methodSymbol userModules c entry).owner?.isNone = true := by
      intro entry
      show ((some c.name).filter fun owner => !owner.isEmpty).isNone = true
      rw [hempty]
      rfl
    rw [if_pos hempty, if_pos hempty, List.filter_eq_self.mpr fun s hs => ?_, List.map_map]
    · rfl
    · obtain ⟨entry, -, rfl⟩ := List.mem_map.mp hs
      exact howner entry
  · rw [if_neg hempty, if_neg hempty]

theorem functionDefects_inspect :
    (p.inspect modules withHost).inventory.functionDefects includeAll = [] := by
  have huser := collectionDefects_of_holdsOnly
    (holdsOnly_map_symbol fun s hs => (p.of_mem_functionSymbols modules hs).1)
  have hhost := collectionDefects_of_holdsOnly
    (holdsOnly_map_symbol fun s hs => p.kind_of_mem_hostFunctionSymbols hs)
  have hget := get?_partitioned withHost
    (some ((p.functionSymbols modules).map Entry.symbol))
    (some (p.hostFunctionSymbols.map Entry.symbol))
  rw [userPartition] at hget
  rw [inventory_inspect]
  cases includeAll with
  | false =>
      simp only [Inventory.functionDefects, Bool.false_eq_true, if_false, hget, Option.getD_some,
        List.flatMap_singleton, huser]
  | true =>
      simp only [Inventory.functionDefects, if_true, toList_partitioned]
      cases withHost with
      | false => simp only [partitioned, Bool.false_eq_true, if_false, List.flatMap_singleton, huser]
      | true =>
          simp only [partitioned, if_true, List.flatMap_cons, List.flatMap_nil, huser, hhost,
            List.append_nil]

theorem classDefects_inspect :
    collectionDefects "classes" .klass (p.inspect modules withHost).inventory.classes = [] := by
  rw [inventory_inspect]
  refine collectionDefects_of_holdsOnly (holdsOnly_map_symbol fun s hs => ?_) _
  rcases List.mem_append.mp hs with hs | hs
  · exact (p.of_mem_map_classSymbol hs).1
  · cases withHost with
    | false => cases hs
    | true => exact (p.of_mem_map_classSymbol hs).1

theorem constantDefects_inspect :
    (if (p.inspect modules withHost).inventory.constants.isNone then [Defect.missing "constants"]
      else []) = [] := by
  rw [inventory_inspect]
  rfl

theorem select_inspect :
    select includeAll (p.inspect modules withHost).inventory = .ok
      { functions := (p.inspect modules withHost).inventory.retainedFunctions includeAll
        classes := (p.inspect modules withHost).inventory.retainedClasses includeAll
        constants := (p.inspect modules withHost).inventory.retainedConstants includeAll } := by
  have hends := select_endsAt includeAll (p.inspect modules withHost).inventory
  rw [functionDefects_inspect, classDefects_inspect, constantDefects_inspect] at hends
  exact hends

theorem defects_inspect :
    (p.inspect modules withHost).inventory.defects includeAll =
      (p.shownClasses modules withHost includeAll).flatMap
        (p.namelessMethods includeAll (titles modules)) := by
  rw [Inventory.defects, functionDefects_inspect, classDefects_inspect, constantDefects_inspect,
    List.append_nil, List.append_nil, List.nil_append, retainedClasses_inspect,
    List.flatMap_append, shownClasses, List.flatMap_append, classSymbols, List.flatMap_map]
  simp only [methodDefects_classSymbol]
  congr 1
  cases withHost && includeAll with
  | false => rfl
  | true =>
      rw [if_pos rfl, if_pos rfl, hostClassSymbols, List.flatMap_map]
      simp only [methodDefects_classSymbol]

end Inventory

variable {p : Program} {modules : List ModuleObject} {withHost includeAll : Bool}

theorem defects_inspect_eq_nil_iff :
    (p.inspect modules withHost).inventory.defects includeAll = [] ↔
      ¬p.ShowsNameless modules withHost includeAll := by
  rw [defects_inspect, List.flatMap_eq_nil_iff]
  constructor
  · rintro h ⟨c, hc, hname, hmethods⟩
    have hnone := h c hc
    rw [namelessMethods, if_pos hname, List.map_eq_nil_iff] at hnone
    exact hmethods hnone
  · intro h c hc
    rw [namelessMethods]
    by_cases hname : c.name = ""
    · rw [if_pos hname, List.map_eq_nil_iff]
      by_contra hmethods
      exact h ⟨c, hc, hname, hmethods⟩
    · exact if_neg hname

/-- What is found makes up its document unless a class without a name would be shown with a
method. -/
theorem build_inspect_of_not (h : ¬p.ShowsNameless modules withHost includeAll) :
    Document.build includeAll (p.inspect modules withHost).inventory =
      .ok ((p.inspect modules withHost).inventory.document includeAll) := by
  have hends := build_endsAt includeAll (p.inspect modules withHost).inventory
  rw [defects_inspect_eq_nil_iff.mpr h] at hends
  exact hends

/-- Otherwise the method is reported to have no owner. -/
theorem build_inspect_of_nameless (h : p.ShowsNameless modules withHost includeAll) :
    ∃ e, Document.build includeAll (p.inspect modules withHost).inventory = .error e ∧
      ∃ f, e.failure = .fault f ∧ f.kind = .symbolInvariant := by
  have hends := build_endsAt includeAll (p.inspect modules withHost).inventory
  rcases hdefects : (p.inspect modules withHost).inventory.defects includeAll with _ | ⟨first, rest⟩
  · exact absurd h (defects_inspect_eq_nil_iff.mp hdefects)
  · rw [hdefects] at hends
    obtain ⟨e, he, hreported⟩ := hends
    have hmem : first ∈ (p.inspect modules withHost).inventory.defects includeAll := by
      rw [hdefects]
      exact List.mem_cons_self
    rw [defects_inspect] at hmem
    obtain ⟨c, -, hfirst⟩ := List.mem_flatMap.mp hmem
    unfold namelessMethods at hfirst
    split at hfirst
    · obtain ⟨entry, -, rfl⟩ := List.mem_map.mp hfirst
      obtain ⟨f, hf, hkind, -⟩ := hreported
      exact ⟨e, he, f, hf, hkind⟩
    · cases hfirst

end Program

end SymbolReference

import Mathlib.Data.List.Induction
import Mathlib.Data.List.Perm.Basic
import SymbolReference.Page.Render
import SymbolReference.Proofs.Inspection.Documents
import SymbolReference.Proofs.Inspection.Writable
import SymbolReference.Proofs.Outcome
import SymbolReference.Proofs.Value.Sorting

namespace SymbolReference

theorem Value.eq_of_text?_eq_some {v : Value} {s : String} (h : v.text? = some s) :
    v = .str s ∨ ∃ k, v = .kind k ∧ k.label = s := by
  cases v with
  | str t => exact Or.inl (congrArg Value.str (Option.some.inj h))
  | kind k => exact Or.inr ⟨k, rfl, Option.some.inj h⟩
  | _ => cases h

theorem Object.exists_less {a b : Object} (ha : a.text?.isSome = true)
    (hb : b.text?.isSome = true) : ∃ result, a.less b = .ok result := by
  cases a with
  | value v =>
      cases b with
      | value w =>
          obtain ⟨s, hs⟩ := Option.isSome_iff_exists.mp ha
          obtain ⟨t, ht⟩ := Option.isSome_iff_exists.mp hb
          have hless : v.less w = .ok (decide (codePoints s < codePoints t)) := by
            obtain rfl | ⟨k, rfl, rfl⟩ := Value.eq_of_text?_eq_some hs
            · obtain rfl | ⟨l, rfl, rfl⟩ := Value.eq_of_text?_eq_some ht
              · rfl
              · rfl
            · obtain rfl | ⟨l, rfl, rfl⟩ := Value.eq_of_text?_eq_some ht
              · rfl
              · rfl
          exact ⟨decide (codePoints s < codePoints t), by rw [Object.less, hless]; rfl⟩
      | _ => cases hb
  | _ => cases ha

theorem Object.comparable_of_text {a b : Object} (ha : a.text?.isSome = true)
    (hb : b.text?.isSome = true) : Comparable Object.less a b :=
  ⟨Object.exists_less ha hb, Object.exists_less hb ha⟩

/-- What modules say they are called, each once: only names of the modules are kept, and no two of
them are equal. -/
theorem distinctTitles_spec (modules : List ModuleObject) :
    (∀ o ∈ distinctTitles modules, ∃ m ∈ modules, m.title = o) ∧
      (distinctTitles modules).Pairwise fun a b => a.same b = false := by
  induction modules using List.reverseRecOn with
  | nil => exact ⟨List.forall_mem_nil _, List.Pairwise.nil⟩
  | append_singleton others m ih =>
      obtain ⟨hfrom, hdistinct⟩ := ih
      have hothers : ∀ o ∈ distinctTitles others, ∃ n ∈ others ++ [m], n.title = o := by
        intro o ho
        obtain ⟨n, hn, htitle⟩ := hfrom o ho
        exact ⟨n, List.mem_append_left _ hn, htitle⟩
      have hstep : distinctTitles (others ++ [m]) =
          if (distinctTitles others).any fun o => o.same m.title then distinctTitles others
          else distinctTitles others ++ [m.title] := by
        rw [distinctTitles, List.foldl_append]
        rfl
      rw [hstep]
      split
      · exact ⟨hothers, hdistinct⟩
      · rename_i hnew
        refine ⟨List.forall_mem_append.mpr ⟨hothers, ?_⟩, List.pairwise_append.mpr
          ⟨hdistinct, List.pairwise_singleton _ _, ?_⟩⟩
        · exact List.forall_mem_singleton.mpr ⟨m, List.mem_append_right _ List.mem_cons_self, rfl⟩
        · intro o ho title htitle
          obtain rfl := List.mem_singleton.mp htitle
          exact Bool.eq_false_iff.mpr fun hsame => hnew (List.any_eq_true.mpr ⟨o, ho, hsame⟩)

/-- What modules say they are called is sorted, whatever order a set has, if any two names that differ
can be compared. -/
theorem exists_sortedTitles (p : Program) {modules : List ModuleObject}
    (h : ∀ m ∈ modules, ∀ n ∈ modules, m.title.same n.title = false →
      Comparable Object.less m.title n.title) :
    ∃ found, sortedTitles p modules = .ok found := by
  obtain ⟨hfrom, hdistinct⟩ := distinctTitles_spec modules
  have hcomparable : (distinctTitles modules).Pairwise (Comparable Object.less) := by
    refine hdistinct.imp_of_mem fun {a b} ha hb hsame => ?_
    obtain ⟨m, hm, rfl⟩ := hfrom a ha
    obtain ⟨n, hn, rfl⟩ := hfrom b hb
    exact h m hm n hn hsame
  obtain ⟨found, hfound, -⟩ := exists_sortBy
    (pairwise_comparable_of_perm (p.setOrder.perm _).symm hcomparable)
  exact ⟨found, hfound⟩

theorem lookup_filter_eq {α : Type} (entries : List (String × α)) (name : String) :
    (entries.filter fun entry => entry.1 = name).lookup name = entries.lookup name := by
  induction entries with
  | nil => rfl
  | cons entry others ih =>
      rw [lookup_cons_eq_ite entry others, List.filter_cons]
      by_cases hname : entry.1 = name
      · rw [if_pos (decide_eq_true hname), lookup_cons_eq_ite, if_pos hname.symm, if_pos hname.symm]
      · rw [if_neg (by simpa using hname), ih, if_neg (Ne.symm hname)]

theorem Mapping.get?_ofList_of_namedAlike {α : Type} {entries others : List (String × α)}
    (h : NamedAlike Prod.fst entries others) (name : String) :
    (Mapping.ofList entries).get? name = (Mapping.ofList others).get? name := by
  rw [get?_ofList, get?_ofList, ← lookup_filter_eq, ← lookup_filter_eq others.reverse,
    List.filter_reverse, List.filter_reverse, h.stable]

theorem sortedConstants_eq_of_get?_eq {a b : Mapping Value}
    (h : ∀ name, a.get? name = b.get? name) : sortedConstants a = sortedConstants b := by
  have halike : NamedAlike Prod.fst a.toList b.toList :=
    NamedAlike.of_nodup (Mapping.perm_of_get?_eq h) a.distinct
  exact congrArg Mapping.ofList halike.mergeSort_eq

namespace Program

/-- Modules that share no names: no function is reported under one name by two of them, no class is,
and no constant is. -/
structure Apart (p : Program) (modules : List ModuleObject) : Prop where
  functions : modules.Pairwise fun a b =>
    (a.functions.map FunctionObject.name).Disjoint (b.functions.map FunctionObject.name)
  classes : modules.Pairwise fun a b =>
    ((p.classesOf a).map ClassObject.name).Disjoint ((p.classesOf b).map ClassObject.name)
  constants : modules.Pairwise fun a b =>
    ((a.values isConstantName).map Prod.fst).Disjoint ((b.values isConstantName).map Prod.fst)

section Reordered

variable {p : Program} {modules others : List ModuleObject}

theorem isFrom_titles_perm (hperm : modules.Perm others) (f : FunctionObject) :
    f.isFrom (titles modules) = f.isFrom (titles others) := by
  have hany : ((titles modules).any fun title => (Object.value f.module).same title) =
      (titles others).any fun title => (Object.value f.module).same title :=
    (hperm.map ModuleObject.title).any_eq
  rw [FunctionObject.isFrom, FunctionObject.isFrom, hany]

theorem classSymbol_titles_perm (hperm : modules.Perm others) :
    p.classSymbol (titles modules) = p.classSymbol (titles others) := by
  funext userDefined c
  simp only [classSymbol, isFrom_titles_perm hperm]

theorem namedAlike_functionSymbols (hperm : modules.Perm others) (hapart : p.Apart modules) :
    NamedAlike Symbol.name (p.functionSymbols modules) (p.functionSymbols others) := by
  rw [functionSymbols, functionSymbols, ← List.map_flatMap, ← List.map_flatMap]
  exact (NamedAlike.flatMap hperm hapart.functions).map fun _ => rfl

theorem namedAlike_classSymbols (hperm : modules.Perm others) (hapart : p.Apart modules) :
    NamedAlike Symbol.name (p.classSymbols modules) (p.classSymbols others) := by
  rw [classSymbols, classSymbols, ← classSymbol_titles_perm hperm]
  exact (NamedAlike.flatMap hperm hapart.classes).map fun _ => rfl

theorem userConstants_perm (hperm : modules.Perm others) (hapart : p.Apart modules) :
    userConstants modules = userConstants others := by
  rw [userConstants_eq, userConstants_eq]
  apply sortedConstants_eq_of_get?_eq
  exact Mapping.get?_ofList_of_namedAlike (NamedAlike.flatMap hperm hapart.constants)

theorem namedAlike_retainedFunctions (hperm : modules.Perm others) (hapart : p.Apart modules)
    (withHost includeAll : Bool) :
    NamedAlike Symbol.name
      ((p.inspect modules withHost).inventory.retainedFunctions includeAll)
      ((p.inspect others withHost).inventory.retainedFunctions includeAll) := by
  rw [retainedFunctions_inspect, retainedFunctions_inspect]
  exact (namedAlike_functionSymbols hperm hapart).append (NamedAlike.refl _)

theorem namedAlike_retainedClasses (hperm : modules.Perm others) (hapart : p.Apart modules)
    (withHost includeAll : Bool) :
    NamedAlike Symbol.name
      ((p.inspect modules withHost).inventory.retainedClasses includeAll)
      ((p.inspect others withHost).inventory.retainedClasses includeAll) := by
  rw [retainedClasses_inspect, retainedClasses_inspect, hostClassSymbols, hostClassSymbols,
    classSymbol_titles_perm hperm]
  exact (namedAlike_classSymbols hperm hapart).append (NamedAlike.refl _)

/-- Modules that share no names make up the same document in every order. -/
theorem document_inspect_perm (hperm : modules.Perm others) (hapart : p.Apart modules)
    (withHost includeAll : Bool) :
    (p.inspect modules withHost).inventory.document includeAll =
      (p.inspect others withHost).inventory.document includeAll := by
  have hfunctions := sortedByName_eq_of_namedAlike
    ((namedAlike_retainedFunctions hperm hapart withHost includeAll).map fun s =>
      (rfl : s.plainModel.name = s.name))
  have hclasses := sortedByName_eq_of_namedAlike
    ((namedAlike_retainedClasses hperm hapart withHost includeAll).map fun s =>
      (rfl : (s.classModel includeAll).name = s.name))
  have hconstants : (p.inspect modules withHost).inventory.retainedConstants includeAll =
      (p.inspect others withHost).inventory.retainedConstants includeAll := by
    rw [retainedConstants_inspect, retainedConstants_inspect, userConstants_perm hperm hapart]
  rw [Inventory.document, Inventory.document, hfunctions, hclasses, hconstants]

theorem showsNameless_perm (hperm : modules.Perm others) (withHost includeAll : Bool) :
    p.ShowsNameless modules withHost includeAll ↔ p.ShowsNameless others withHost includeAll := by
  have hclasses : ∀ c, c ∈ p.shownClasses modules withHost includeAll ↔
      c ∈ p.shownClasses others withHost includeAll := fun c =>
    ((hperm.flatMap_right p.classesOf).append_right _).mem_iff
  have hmethods : p.shownMethods includeAll (titles modules) =
      p.shownMethods includeAll (titles others) := by
    funext c
    simp only [shownMethods, isFrom_titles_perm hperm]
  simp only [ShowsNameless, hclasses, hmethods]

theorem fault_look_perm (hperm : modules.Perm others)
    (htitles : (∃ found, sortedTitles p modules = .ok found) ↔
      ∃ found, sortedTitles p others = .ok found) (withHost : Bool) :
    (p.look modules withHost).fault = none ↔ (p.look others withHost).fault = none := by
  simp only [fault_look_eq_none_iff, hperm.mem_iff, htitles]

theorem documentOf_perm (hperm : modules.Perm others) (hapart : p.Apart modules)
    (htitles : (∃ found, sortedTitles p modules = .ok found) ↔
      ∃ found, sortedTitles p others = .ok found) (withHost includeAll : Bool) (d : Document) :
    p.documentOf modules withHost includeAll = .ok d ↔
      p.documentOf others withHost includeAll = .ok d := by
  rw [documentOf_eq_ok_iff, documentOf_eq_ok_iff, fault_look_perm hperm htitles,
    showsNameless_perm hperm, document_inspect_perm hperm hapart]

end Reordered

section Named

variable {p : Program} {names others : List String} {modules : List ModuleObject}

theorem importAll_eq_ok_iff :
    p.importAll names = .ok modules ↔
      List.Forall₂ (fun name m => p.importModule name = .ok m) names modules := by
  induction names generalizing modules with
  | nil =>
      rw [List.forall₂_nil_left_iff]
      exact pure_eq_ok_iff
  | cons name rest ih =>
      simp only [importAll, bind_eq_ok_iff, pure_eq_ok_iff, List.forall₂_cons_left_iff, ih]
      constructor
      · rintro ⟨m, hm, found, hfound, rfl⟩
        exact ⟨m, found, hm, hfound, rfl⟩
      · rintro ⟨m, found, hm, hfound, rfl⟩
        exact ⟨m, hm, found, hfound, rfl⟩

theorem exists_importAll_perm (hperm : names.Perm others)
    (h : p.importAll names = .ok modules) :
    ∃ found, p.importAll others = .ok found ∧ modules.Perm found := by
  obtain ⟨found, hfound, hmodules⟩ :=
    List.perm_comp_forall₂ hperm.symm (importAll_eq_ok_iff.mp h)
  exact ⟨found, importAll_eq_ok_iff.mpr hfound, hmodules.symm⟩

/-- The text of the document of modules that are inspected by name, if there is one. -/
def textOf (p : Program) (names : List String) (withHost includeAll : Bool) (format : OutputFormat)
    (options : PageOptions) : Option String :=
  match p.inspectNames names withHost with
  | .error _ => none
  | .ok findings =>
    match Document.build includeAll findings.inventory with
    | .error _ => none
    | .ok d => (renderDocument? format options (some d)).toOption

theorem textOf_eq_some_iff (h : p.importAll names = .ok modules) {withHost includeAll : Bool}
    {format : OutputFormat} {options : PageOptions} {text : String} :
    p.textOf names withHost includeAll format options = some text ↔
      ∃ d, p.documentOf modules withHost includeAll = .ok d ∧
        renderDocument? format options (some d) = .ok text := by
  cases hfault : (p.look modules withHost).fault with
  | some e =>
      have hinspect : p.inspectNames names withHost = .error (.object e) := by
        simp only [inspectNames, h, hfault]
      simp [textOf, hinspect, documentOf_of_fault hfault]
  | none =>
      have hinspect : p.inspectNames names withHost = .ok (p.inspect modules withHost) := by
        simp only [inspectNames, h, hfault]
      cases hbuild : Document.build includeAll (p.inspect modules withHost).inventory with
      | error e => simp [textOf, hinspect, hbuild, documentOf_of_look hfault, Except.mapError]
      | ok d =>
          simp [textOf, hinspect, hbuild, documentOf_of_look hfault, Except.mapError,
            toOption_eq_some_iff]

theorem exists_textOf (himport : p.importAll names = .ok modules) {withHost includeAll : Bool}
    (hfault : (p.look modules withHost).fault = none)
    (hnamed : ¬p.ShowsNameless modules withHost includeAll) (format : OutputFormat)
    {options : PageOptions}
    (hwritable : ((p.inspect modules withHost).inventory.document includeAll).isWritable options =
      true) :
    ∃ text, p.textOf names withHost includeAll format options = some text :=
  ⟨_, (textOf_eq_some_iff himport).mpr
    ⟨_, documentOf_eq_ok_iff.mpr ⟨hfault, hnamed, rfl⟩, if_pos hwritable⟩⟩

/-- The names that modules say they have can be sorted when the modules are named in this order. -/
def TitlesSort (p : Program) (names : List String) : Prop :=
  ∃ modules found, p.importAll names = .ok modules ∧ sortedTitles p modules = .ok found

theorem titlesSort_iff (h : p.importAll names = .ok modules) :
    p.TitlesSort names ↔ ∃ found, sortedTitles p modules = .ok found := by
  constructor
  · rintro ⟨imported, found, himported, hfound⟩
    rw [h] at himported
    cases himported
    exact ⟨found, hfound⟩
  · rintro ⟨found, hfound⟩
    exact ⟨modules, found, h, hfound⟩

/-- The order in which modules are named does not matter: modules that share no names give the same
text in every order, or none, if what they say they are called is sorted in both orders or in
neither. -/
theorem textOf_perm (hperm : names.Perm others) (himport : p.importAll names = .ok modules)
    (hapart : p.Apart modules) (htitles : p.TitlesSort names ↔ p.TitlesSort others)
    (withHost includeAll : Bool) (format : OutputFormat) (options : PageOptions) :
    p.textOf names withHost includeAll format options =
      p.textOf others withHost includeAll format options := by
  -- The names in another order are found as the modules in that order, and these may differ in
  -- everything but the document.
  obtain ⟨found, hfound, hmodules⟩ := exists_importAll_perm hperm himport
  rw [titlesSort_iff himport, titlesSort_iff hfound] at htitles
  ext text
  rw [textOf_eq_some_iff himport, textOf_eq_some_iff hfound]
  simp only [documentOf_perm hmodules hapart htitles]

end Named

end Program

def moorFunction : FunctionObject where
  name := "moor"
  module := .str "north"

/-- A class of the northern module. -/
def dockClass : ClassObject where
  name := "Dock"
  fullName := "Dock"
  order := [1, Root.number]
  attributes := [("__module__", .value (.str "north")), ("moor", .function moorFunction)]

/-- A class of the southern module that descends from the northern one. -/
def pierClass : ClassObject where
  name := "Pier"
  fullName := "Pier"
  order := [2, 1, Root.number]
  attributes := [("__module__", .value (.str "south"))]

def absFunction : FunctionObject where
  name := "abs"
  module := .str "north"

def northModule : ModuleObject where
  name := "north"
  title := .value (.str "north")
  attributes := [("abs", .function absFunction), ("Dock", .klass 1), ("DEPTH", .value (.int 9))]

def towFunction : FunctionObject where
  name := "tow"
  module := .str "south"
  signature := some [{ name := "load", default := some (.int 2) }]

def southModule : ModuleObject where
  name := "south"
  title := .value (.str "south")
  attributes := [("tow", .function towFunction), ("Pier", .klass 2), ("BERTHS", .value (.int 4))]

theorem plain_northModule : northModule.Plain :=
  ⟨rfl, by decide, by decide⟩

theorem plain_southModule : southModule.Plain :=
  ⟨rfl, by decide, by decide⟩

/-- The host has a function of the same name as the northern module. -/
def coastProgram : Program where
  classes := [Root.root, dockClass, pierClass]
  modules := [northModule, southModule]
  host :=
    { name := hostName
      title := .value (.str hostName)
      attributes := [("abs", .function Native.abs.toFunction)] }

theorem plain_coastHost : coastProgram.host.Plain :=
  ⟨rfl, by decide, by decide⟩

theorem disjoint_map_of_forall_eq {α : Type} {f : α → String} {as bs : List α} {s t : String}
    (hs : ∀ a ∈ as, f a = s) (ht : ∀ b ∈ bs, f b = t) (hne : s ≠ t) :
    (as.map f).Disjoint (bs.map f) := by
  intro name ha hb
  obtain ⟨a, hmem, rfl⟩ := List.mem_map.mp ha
  obtain ⟨b, hb, heq⟩ := List.mem_map.mp hb
  exact hne ((hs a hmem).symm.trans (heq.symm.trans (ht b hb)))

namespace Program

theorem apart_coast : coastProgram.Apart [northModule, southModule] where
  functions := by
    have hnorth : ∀ f ∈ northModule.functions, f.name = "abs" := by
      intro f hf
      obtain ⟨name, hfound⟩ := mem_found_of_mem_functions hf
      have hmem := plain_northModule.mem_found_iff.mp hfound
      obtain ⟨-, rfl⟩ : name = "abs" ∧ f = absFunction := by simpa [northModule] using hmem
      rfl
    have hsouth : ∀ f ∈ southModule.functions, f.name = "tow" := by
      intro f hf
      obtain ⟨name, hfound⟩ := mem_found_of_mem_functions hf
      have hmem := plain_southModule.mem_found_iff.mp hfound
      obtain ⟨-, rfl⟩ : name = "tow" ∧ f = towFunction := by simpa [southModule] using hmem
      rfl
    rw [List.pairwise_pair]
    exact disjoint_map_of_forall_eq hnorth hsouth (by decide)
  classes := by
    have hnorth : ∀ c ∈ coastProgram.classesOf northModule, c.name = "Dock" := by
      intro c hc
      obtain ⟨name, number, hfound, hclass⟩ := mem_allClassesOf.mp (List.mem_of_mem_filter hc)
      have hmem := plain_northModule.mem_found_iff.mp hfound
      obtain ⟨-, rfl⟩ : name = "Dock" ∧ number = 1 := by simpa [northModule] using hmem
      cases hclass
      rfl
    have hsouth : ∀ c ∈ coastProgram.classesOf southModule, c.name = "Pier" := by
      intro c hc
      obtain ⟨name, number, hfound, hclass⟩ := mem_allClassesOf.mp (List.mem_of_mem_filter hc)
      have hmem := plain_southModule.mem_found_iff.mp hfound
      obtain ⟨-, rfl⟩ : name = "Pier" ∧ number = 2 := by simpa [southModule] using hmem
      cases hclass
      rfl
    rw [List.pairwise_pair]
    exact disjoint_map_of_forall_eq hnorth hsouth (by decide)
  constants := by
    have hnorth : (northModule.values isConstantName).map Prod.fst = ["DEPTH"] := by decide +kernel
    have hsouth : (southModule.values isConstantName).map Prod.fst = ["BERTHS"] := by decide +kernel
    rw [List.pairwise_pair, hnorth, hsouth]
    simp

theorem importAll_coast :
    coastProgram.importAll ["north", "south"] = .ok [northModule, southModule] := by
  rw [importAll_eq_ok_iff]
  simp [importModule, module?, coastProgram, northModule, southModule]

theorem importAll_coast_reversed :
    coastProgram.importAll ["south", "north"] = .ok [southModule, northModule] := by
  rw [importAll_eq_ok_iff]
  simp [importModule, module?, coastProgram, northModule, southModule]

/-- The southern class inherits a method from the northern one, and both modules are shown with the
host, in either order. -/
theorem textOf_perm_coast : ∃ text,
    coastProgram.textOf ["north", "south"] true true .html { showLocations := false } =
      some text ∧
    coastProgram.textOf ["south", "north"] true true .html { showLocations := false } =
      some text := by
  have htext : ∀ m ∈ [northModule, southModule], m.title.text?.isSome = true := by decide +kernel
  have hsorted : ∃ found, sortedTitles coastProgram [northModule, southModule] = .ok found :=
    exists_sortedTitles _ fun m hm n hn _ => Object.comparable_of_text (htext m hm) (htext n hn)
  have htexts : ∀ m ∈ [southModule, northModule], m.title.text?.isSome = true := by decide +kernel
  have hreversed : ∃ found, sortedTitles coastProgram [southModule, northModule] = .ok found :=
    exists_sortedTitles _ fun m hm n hn _ => Object.comparable_of_text (htexts m hm) (htexts n hn)
  have htitles : coastProgram.TitlesSort ["north", "south"] ↔
      coastProgram.TitlesSort ["south", "north"] := by
    rw [titlesSort_iff importAll_coast, titlesSort_iff importAll_coast_reversed]
    exact iff_of_true hsorted hreversed
  have hmodules : ∀ m ∈ [northModule, southModule], titleFault? m = none ∧
      m.listingFault? = none := by
    rw [List.forall_mem_cons, List.forall_mem_singleton]
    exact ⟨⟨rfl, plain_northModule.listingFault?⟩, rfl, plain_southModule.listingFault?⟩
  have hfault : (coastProgram.look [northModule, southModule] true).fault = none :=
    fault_look_of_placed (by decide +kernel) (by decide +kernel) plain_coastHost.listingFault?
      hmodules hsorted true
  have hnamed : ¬coastProgram.ShowsNameless [northModule, southModule] true true := by
    rintro ⟨c, hc, hname, -⟩
    have hnames : ∀ c ∈ coastProgram.classes, c.name ≠ "" := by decide +kernel
    exact hnames c (mem_classes_of_mem_shownClasses _ _ _ _ hc) hname
  have hobjects : ∀ m ∈ coastProgram.host :: [northModule, southModule], m.Plain ∧
      ∀ entry ∈ m.attributes, entry.2.isWritable = true := by
    rw [List.forall_mem_cons, List.forall_mem_cons, List.forall_mem_singleton]
    exact ⟨⟨plain_coastHost, by decide +kernel⟩, ⟨plain_northModule, by decide +kernel⟩,
      plain_southModule, by decide +kernel⟩
  have hwritable : ((coastProgram.inspect [northModule, southModule] true).inventory.document
      true).isWritable { showLocations := false } = true :=
    isWritable_document_inspect rfl (by decide +kernel) hobjects
  obtain ⟨text, htext⟩ := exists_textOf importAll_coast hfault hnamed .html hwritable
  refine ⟨text, htext, ?_⟩
  rw [← htext]
  exact (textOf_perm (List.Perm.swap _ _ _) importAll_coast apart_coast htitles true true _ _).symm

end Program

/-- A module without symbols that says it is called by a pair of a set and something else. -/
def pairModule (name : String) (member : Int) (second : Value) : ModuleObject where
  name := name
  title := .value (.tuple [.frozenset [.int member], second])

theorem plain_pairModule (name : String) (member : Int) (second : Value) :
    (pairModule name member second).Plain :=
  ⟨rfl, List.nodup_nil, List.forall_mem_nil _⟩

theorem found_pairModule (name : String) (member : Int) (second : Value) :
    (pairModule name member second).found = [] :=
  List.eq_nil_iff_forall_not_mem.mpr fun _ hentry =>
    absurd ((plain_pairModule name member second).mem_found_iff.mp hentry) List.not_mem_nil

def nestedPair : ModuleObject := pairModule "a" 1 (.tuple [.int 0])

def plainPair : ModuleObject := pairModule "b" 1 (.int 0)

def otherPair : ModuleObject := pairModule "c" 3 (.int 0)

/-- The second parts of the first two pairs have no order, but they are compared only where the two
stand next to each other: the set of the third pair is neither before nor after theirs. -/
def pairProgram : Program :=
  { Program.bare with modules := [nestedPair, plainPair, otherPair] }

namespace Program

theorem importAll_pairs :
    pairProgram.importAll ["a", "b", "c"] = .ok [nestedPair, plainPair, otherPair] := by
  rw [importAll_eq_ok_iff]
  simp [importModule, module?, pairProgram, nestedPair, plainPair, otherPair, pairModule]

theorem importAll_pairs_reordered :
    pairProgram.importAll ["a", "c", "b"] = .ok [nestedPair, otherPair, plainPair] := by
  rw [importAll_eq_ok_iff]
  simp [importModule, module?, pairProgram, nestedPair, plainPair, otherPair, pairModule]

theorem apart_pairs : pairProgram.Apart [nestedPair, plainPair, otherPair] := by
  have hfunctions : ∀ name member second, (pairModule name member second).functions = [] := by
    intro name member second
    rw [ModuleObject.functions, found_pairModule, List.filterMap_nil]
  have hclasses : ∀ name member second,
      pairProgram.classesOf (pairModule name member second) = [] := by
    intro name member second
    rw [classesOf, allClassesOf, found_pairModule, List.filterMap_nil, List.filter_nil]
  constructor
  · simp [nestedPair, plainPair, otherPair, hfunctions]
  · simp [nestedPair, plainPair, otherPair, hclasses]
  · simp [nestedPair, plainPair, otherPair, ModuleObject.values, pairModule]

/-- These modules share no names, for they have none, and yet only one order gives a text. -/
theorem textOf_pairs_reordered :
    ["a", "b", "c"].Perm ["a", "c", "b"] ∧
    pairProgram.importAll ["a", "b", "c"] = .ok [nestedPair, plainPair, otherPair] ∧
    pairProgram.Apart [nestedPair, plainPair, otherPair] ∧
    pairProgram.textOf ["a", "b", "c"] false false .html { showLocations := false } = none ∧
    ∃ text, pairProgram.textOf ["a", "c", "b"] false false .html { showLocations := false } =
      some text := by
  refine ⟨by decide, importAll_pairs, apart_pairs, ?_, ?_⟩
  · have hunsorted : ¬∃ found,
        sortedTitles pairProgram [nestedPair, plainPair, otherPair] = .ok found := by
      rw [exists_eq_ok_iff_isOk]
      decide +kernel
    rw [Option.eq_none_iff_forall_ne_some]
    intro text htext
    obtain ⟨d, hd, -⟩ := (textOf_eq_some_iff importAll_pairs).mp htext
    obtain ⟨hfault, -⟩ := documentOf_eq_ok_iff.mp hd
    exact hunsorted ((pairProgram.fault_look_eq_none_iff ..).mp hfault).2.2.2
  · have hsorted : ∃ found,
        sortedTitles pairProgram [nestedPair, otherPair, plainPair] = .ok found := by
      rw [exists_eq_ok_iff_isOk]
      decide +kernel
    have hplain : ∀ m ∈ [nestedPair, otherPair, plainPair], m.Plain := by
      rw [List.forall_mem_cons, List.forall_mem_cons, List.forall_mem_singleton]
      exact ⟨plain_pairModule .., plain_pairModule .., plain_pairModule ..⟩
    have hmodules : ∀ m ∈ [nestedPair, otherPair, plainPair], titleFault? m = none ∧
        m.listingFault? = none := by
      have htitles : ∀ m ∈ [nestedPair, otherPair, plainPair], titleFault? m = none := by
        decide +kernel
      exact fun m hm => ⟨htitles m hm, (hplain m hm).listingFault?⟩
    have hhost : pairProgram.host.Plain := ⟨rfl, by decide, by decide⟩
    have hnamed : ¬pairProgram.ShowsNameless [nestedPair, otherPair, plainPair] false false := by
      rintro ⟨c, hc, hname, -⟩
      have hnames : ∀ c ∈ pairProgram.classes, c.name ≠ "" := by decide +kernel
      exact hnames c (mem_classes_of_mem_shownClasses _ _ _ _ hc) hname
    have hempty : ∀ m ∈ pairProgram.host :: [nestedPair, otherPair, plainPair],
        ∀ entry ∈ m.attributes, entry.2.isWritable = true := by decide +kernel
    refine exists_textOf importAll_pairs_reordered ?_ hnamed .html ?_
    · exact fault_look_of_placed (by decide +kernel) (by decide +kernel) hhost.listingFault?
        hmodules hsorted false
    · refine isWritable_document_inspect rfl (by decide +kernel) fun m hm => ⟨?_, hempty m hm⟩
      exact List.forall_mem_cons.mpr ⟨hhost, hplain⟩ m hm

end Program

end SymbolReference

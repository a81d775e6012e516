import SymbolReference.Page.Format
import SymbolReference.Proofs.Document.Constants
import SymbolReference.Proofs.Inspection.Documents

namespace SymbolReference

theorem toList_sortedConstants (constants : Mapping Value) :
    (sortedConstants constants).toList = constants.toList.mergeSort (nameLe Prod.fst) := by
  apply Mapping.toList_ofList
  exact ((List.mergeSort_perm _ _).map Prod.fst).nodup_iff.mpr constants.distinct

theorem userConstants_eq (modules : List ModuleObject) :
    userConstants modules =
      sortedConstants (.ofList (modules.flatMap fun m => m.values isConstantName)) := by
  rw [userConstants, Mapping.ofList, Mapping.update, List.foldl_flatMap]
  rfl

/-- Whether everything that a page without locations shows of an object can be written. -/
def Object.isWritable : Object → Bool
  | .function f | .staticMethod f | .classMethod f =>
    (f.parameters.toOption.getD []).all Parameter.isWritable
  | .klass _ | .module _ | .callable _ => true
  | .value v => v.isWritable

theorem Object.isWritable_constant? {o : Object} {v : Value} (h : o.constant? = some v)
    (ho : o.isWritable = true) : v.isWritable = true := by
  cases o with
  | value w =>
      cases h
      exact ho
  | classMethod f =>
      rw [constant?] at h
      split at h
      · cases h
      · cases h
        rw [Value.isWritable]
  | _ => cases h

theorem ModuleObject.mem_values {m : ModuleObject} {isName : String → Bool} {name : String}
    {v : Value} :
    (name, v) ∈ m.values isName ↔
      isName name = true ∧ ∃ o, (name, o) ∈ m.attributes ∧ o.constant? = some v := by
  rw [values, List.mem_filterMap]
  constructor
  · rintro ⟨⟨other, o⟩, hmem, hentry⟩
    cases hconstant : o.constant? with
    | none =>
        simp only [hconstant] at hentry
        cases hentry
    | some w =>
        simp only [hconstant] at hentry
        obtain ⟨hname, heq⟩ := Option.ite_none_right_eq_some.mp hentry
        cases heq
        exact ⟨hname, o, hmem, hconstant⟩
  · rintro ⟨hname, o, hmem, hconstant⟩
    exact ⟨(name, o), hmem, by simp only [hconstant, hname, if_true]⟩

namespace Program

section Writable

variable {p : Program} {modules : List ModuleObject} {withHost includeAll : Bool}

theorem exists_of_mem_constants {entry : String × Value}
    (h : entry ∈ ((p.inspect modules withHost).inventory.retainedConstants includeAll).toList) :
    ∃ m ∈ p.host :: modules, ∃ o, (entry.1, o) ∈ m.attributes ∧ o.constant? = some entry.2 := by
  have huser : entry ∈ (userConstants modules).toList → ∃ m ∈ p.host :: modules, ∃ o,
      (entry.1, o) ∈ m.attributes ∧ o.constant? = some entry.2 := by
    intro hmem
    rw [userConstants_eq, toList_sortedConstants, List.mem_mergeSort] at hmem
    rcases Mapping.mem_toList_update hmem with hnone | hmem
    · cases hnone
    · obtain ⟨m, hm, hvalue⟩ := List.mem_flatMap.mp hmem
      exact ⟨m, List.mem_cons_of_mem _ hm, (ModuleObject.mem_values.mp hvalue).2⟩
  have hhost : entry ∈ (hostConstants p.host).toList → ∃ m ∈ p.host :: modules, ∃ o,
      (entry.1, o) ∈ m.attributes ∧ o.constant? = some entry.2 := by
    intro hmem
    rw [hostConstants, toList_sortedConstants, List.mem_mergeSort] at hmem
    rcases Mapping.mem_toList_update hmem with hnone | hmem
    · cases hnone
    · exact ⟨p.host, List.mem_cons_self, (ModuleObject.mem_values.mp hmem).2⟩
  rw [retainedConstants_inspect] at h
  split at h
  · obtain ⟨before, given, after, hpartitions, hgiven, -⟩ := lastGives_of_mem_mergedConstants h
    have hmem : some given ∈ some (userConstants modules) ::
        if withHost then [some (hostConstants p.host)] else [] := by
      rw [hpartitions]
      simp
    rcases List.mem_cons.mp hmem with heq | hmem
    · exact huser (Option.some.inj heq ▸ hgiven)
    · split at hmem
      · exact hhost (Option.some.inj (List.mem_singleton.mp hmem) ▸ hgiven)
      · cases hmem
  · exact huser h

theorem isWritable_declare {options : PageOptions} (hlocations : options.showLocations = false)
    {f : FunctionObject} (hf : (Object.function f).isWritable = true) (kind : Kind) (name : String)
    (owner : Option String) (userDefined : Bool) :
    (Symbol.leaf (p.declare f kind name owner userDefined)).plainModel.isWritable options = true := by
  have hparameters : (Model.declaration
      (Symbol.leaf (p.declare f kind name owner userDefined)).plainModel).parameters.all
        Parameter.isWritable = true := hf
  have hlocation : shownLocation options
      (Symbol.leaf (p.declare f kind name owner userDefined)).plainModel = none := by
    rw [shownLocation, hlocations]
    rfl
  rw [Model.isWritable, hparameters, hlocation, Bool.or_true]
  rfl

theorem isWritable_classSymbol {options : PageOptions} (hlocations : options.showLocations = false)
    (hclasses : ∀ c ∈ p.classes, ∀ entry ∈ c.attributes, entry.2.isWritable = true)
    (userModules : List Object) (userDefined : Bool) (c : ClassObject) :
    (((p.classSymbol userModules userDefined c).classModel includeAll).isWritable options &&
      ((p.classSymbol userModules userDefined c).classModel includeAll).methods.all
        (Model.isWritable options)) = true := by
  have hmethod : ∀ entry ∈ methodsIn (p.ancestry c),
      (Object.function entry.2).isWritable = true := by
    intro entry hentry
    obtain ⟨b, hb, o, ho, hmethod⟩ := exists_of_mem_methodsIn hentry
    have hwritable := hclasses b (mem_classes_of_mem_ancestry hb) _ ho
    cases o with
    | function f | staticMethod f | classMethod f =>
        cases hmethod
        exact hwritable
    | _ => cases hmethod
  have hlocation : shownLocation options
      ((p.classSymbol userModules userDefined c).classModel includeAll) = none := by
    rw [shownLocation, hlocations]
    rfl
  rw [Bool.and_eq_true, List.all_eq_true]
  constructor
  · rw [Model.isWritable, hlocation]
    rfl
  · intro m hm
    obtain ⟨s, hs, rfl⟩ := exists_of_mem_methods hm
    rw [retainedMethods_classSymbol] at hs
    obtain ⟨entry, hentry, rfl⟩ := List.mem_map.mp hs
    exact isWritable_declare hlocations (hmethod entry (List.mem_of_mem_filter hentry)) ..

theorem exists_of_mem_retainedFunctions {s : Symbol}
    (h : s ∈ (p.inspect modules withHost).inventory.retainedFunctions includeAll) :
    ∃ m ∈ p.host :: modules, ∃ name f userDefined, (name, Object.function f) ∈ m.found ∧
      s = .leaf (p.declare f .function f.name none userDefined) := by
  rw [retainedFunctions_inspect] at h
  rcases List.mem_append.mp h with h | h
  · obtain ⟨m, hm, h⟩ := List.mem_flatMap.mp h
    obtain ⟨f, hf, rfl⟩ := List.mem_map.mp h
    obtain ⟨name, hmem⟩ := mem_found_of_mem_functions hf
    exact ⟨m, List.mem_cons_of_mem _ hm, name, f, _, hmem, rfl⟩
  · split at h
    · obtain ⟨f, hf, rfl⟩ := List.mem_map.mp h
      obtain ⟨name, hmem⟩ := mem_found_of_mem_natives hf
      exact ⟨p.host, List.mem_cons_self, name, f, _, hmem, rfl⟩
    · cases h

/-- A page without locations can be written when every object that is found can. -/
theorem isWritable_document_inspect {options : PageOptions}
    (hlocations : options.showLocations = false)
    (hclasses : ∀ c ∈ p.classes, ∀ entry ∈ c.attributes, entry.2.isWritable = true)
    (hmodules : ∀ m ∈ p.host :: modules, m.Plain ∧
      ∀ entry ∈ m.attributes, entry.2.isWritable = true) :
    ((p.inspect modules withHost).inventory.document includeAll).isWritable options = true := by
  rw [Document.isWritable, Bool.and_eq_true, Bool.and_eq_true]
  simp only [List.all_eq_true]
  refine ⟨⟨fun m hm => ?_, fun m hm => ?_⟩, fun m hm => ?_⟩
  · obtain ⟨s, hs, rfl⟩ := exists_of_mem_functions hm
    obtain ⟨n, hn, name, f, userDefined, hmem, rfl⟩ := exists_of_mem_retainedFunctions hs
    obtain ⟨hplain, hwritable⟩ := hmodules n hn
    exact isWritable_declare hlocations (hwritable _ (hplain.mem_found_iff.mp hmem)) ..
  · obtain ⟨s, hs, rfl⟩ := exists_of_mem_classes hm
    rw [retainedClasses_inspect] at hs
    rcases List.mem_append.mp hs with hs | hs
    · obtain ⟨c, -, rfl⟩ := List.mem_map.mp hs
      exact isWritable_classSymbol hlocations hclasses ..
    · split at hs
      · obtain ⟨c, -, rfl⟩ := List.mem_map.mp hs
        exact isWritable_classSymbol hlocations hclasses ..
      · cases hs
  · obtain ⟨entry, hentry, rfl⟩ := List.mem_map.mp hm
    obtain ⟨n, hn, o, ho, hconstant⟩ := exists_of_mem_constants hentry
    exact Object.isWritable_constant? hconstant ((hmodules n hn).2 _ ho)

end Writable

end Program

end SymbolReference

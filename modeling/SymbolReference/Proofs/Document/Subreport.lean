import Mathlib.Data.List.Forall2
import SymbolReference.Proofs.Document.Constants

namespace SymbolReference

/-- A class that is shown in part: the symbol and its comment are the same, and some of the methods
are left out. -/
structure Model.IsPartOf (part whole : Model) : Prop where
  symbol : part.symbol = whole.symbol
  comment : part.comment = whole.comment
  methods : part.methods.Sublist whole.methods

/-- A document that shows part of another one. Its functions are some of the functions, its classes
are parts of some of the classes, in the same order, and its constants have names of constants. -/
structure Document.IsPartOf (part whole : Document) : Prop where
  functions : part.functions.Sublist whole.functions
  classes : List.SublistForall₂ Model.IsPartOf part.classes whole.classes
  constants : part.constants.map Model.name ⊆ whole.constants.map Model.name

theorem retainedOf_sublist (entries : Option (List Entry)) :
    (retainedOf false entries).Sublist (retainedOf true entries) := by
  rw [retainedOf_true, retainedOf_false]
  exact List.filter_sublist

theorem Mapping.mem_values_of_get? {α : Type} {m : Mapping α} {name : String} {value : α}
    (h : m.get? name = some value) : value ∈ m.values :=
  List.mem_map_of_mem ((m.get?_eq_some_iff name value).mp h)

theorem retainedFunctions_sublist (inventory : Inventory) :
    (inventory.retainedFunctions false).Sublist (inventory.retainedFunctions true) := by
  cases hfunctions : inventory.functions with
  | none => simp only [Inventory.retainedFunctions, hfunctions, List.Sublist.refl]
  | some functions =>
      simp only [Inventory.retainedFunctions, hfunctions, if_true, Bool.false_eq_true, if_false]
      refine List.filter_sublist.trans ?_
      cases hget : functions.get? userPartition with
      | none => exact List.nil_sublist _
      | some entries =>
          have hmem : entries ∈ functions.values := Mapping.mem_values_of_get? hget
          rw [List.flatMap_def]
          exact List.sublist_flatten_of_mem (List.mem_map_of_mem hmem)

theorem mem_names_mergedConstants (partitions : List (Option (Mapping Value))) (name : String) :
    name ∈ (mergedConstants partitions).names ↔
      ∃ partition ∈ partitions, name ∈ (partition.getD Mapping.empty).names := by
  rw [mergedConstants_eq_ofList, (Mapping.inReadingOrder_ofList _).mem_iff, readConstants,
    List.map_flatMap, List.mem_flatMap]
  rfl

theorem names_retainedConstants_subset (inventory : Inventory) :
    (inventory.retainedConstants false).names ⊆ (inventory.retainedConstants true).names := by
  cases hconstants : inventory.constants with
  | none => simp only [Inventory.retainedConstants, hconstants, List.Subset.refl]
  | some constants =>
      simp only [Inventory.retainedConstants, hconstants, if_true, Bool.false_eq_true, if_false]
      intro name hname
      rw [mem_names_mergedConstants]
      cases hget : constants.get? userPartition with
      | none =>
          rw [hget] at hname
          cases hname
      | some partition =>
          rw [hget] at hname
          exact ⟨partition, Mapping.mem_values_of_get? hget, hname⟩

theorem Symbol.MethodsOwned.of_all {c : Symbol} (h : c.MethodsOwned true) :
    c.MethodsOwned false :=
  ⟨h.1, fun m hm => h.2 m ((retainedOf_sublist c.methods).subset hm)⟩

/-- Every check of the user-defined symbols is among the checks of all symbols. -/
theorem Inventory.Buildable.of_all {inventory : Inventory} (h : inventory.Buildable true) :
    inventory.Buildable false := by
  refine ⟨?_, h.classes, h.constants, fun c hc => ?_⟩
  · obtain ⟨functions, hfunctions, hholds⟩ := h.functions
    refine ⟨functions, hfunctions, ?_⟩
    simp only [consideredPartitions, Bool.false_eq_true, if_false, List.forall_mem_singleton]
    cases hget : functions.get? userPartition with
    | none =>
        intro entry hentry
        cases hentry
    | some entries =>
        exact hholds _ ((functions.get?_eq_some_iff userPartition entries).mp hget)
  · exact (h.methods c ((retainedOf_sublist inventory.classes).subset hc)).of_all

theorem sortedByName_sublist {part whole : List Model} (h : part.Sublist whole) :
    (sortedByName part).Sublist (sortedByName whole) :=
  mergeSort_sublist_mergeSort Model.name h

theorem Symbol.classModel_isPartOf (c : Symbol) :
    (c.classModel false).IsPartOf (c.classModel true) where
  symbol := rfl
  comment := rfl
  methods := sortedByName_sublist ((retainedOf_sublist c.methods).map _)

theorem sortedByName_map_classModel (includeAll : Bool) (classes : List Symbol) :
    sortedByName (classes.map (Symbol.classModel includeAll)) =
      (classes.mergeSort (nameLe Symbol.name)).map (Symbol.classModel includeAll) := by
  symm
  apply List.map_mergeSort
  intro a _ b _
  rfl

theorem Inventory.document_isPartOf (inventory : Inventory) :
    (inventory.document false).IsPartOf (inventory.document true) where
  functions := sortedByName_sublist ((retainedFunctions_sublist inventory).map _)
  classes := by
    simp only [Inventory.document, sortedByName_map_classModel]
    rw [List.sublistForall₂_iff]
    refine ⟨((inventory.retainedClasses false).mergeSort (nameLe Symbol.name)).map
      (Symbol.classModel true), ?_, ?_⟩
    · rw [List.forall₂_map_left_iff, List.forall₂_map_right_iff, List.forall₂_same]
      exact fun c _ => c.classModel_isPartOf
    · exact (mergeSort_sublist_mergeSort Symbol.name (retainedOf_sublist inventory.classes)).map _
  constants := by
    have hnames : ∀ includeAll, (inventory.document includeAll).constants.map Model.name =
        (inventory.retainedConstants includeAll).names := by
      intro includeAll
      rw [Inventory.document, List.map_map]
      rfl
    rw [hnames, hnames]
    exact names_retainedConstants_subset inventory

/-- Where the document of all symbols is built, the document of the user-defined ones is built too
and is a part of it. -/
theorem build_user_isPartOf_build_all {inventory : Inventory} {whole : Document}
    (h : Document.build true inventory = .ok whole) :
    ∃ part, Document.build false inventory = .ok part ∧ part.IsPartOf whole := by
  obtain ⟨hbuildable, rfl⟩ := (Document.build_eq_ok_iff true inventory whole).mp h
  refine ⟨inventory.document false, ?_, inventory.document_isPartOf⟩
  exact (Document.build_eq_ok_iff false inventory _).mpr ⟨hbuildable.of_all, rfl⟩

/-- The shelf has a function of the host, which its smaller document leaves out. -/
theorem build_user_isPartOf_build_all_shelf : ∃ part whole,
    Document.build true shelfInventory = .ok whole ∧
    Document.build false shelfInventory = .ok part ∧ part.IsPartOf whole ∧
    part.functions.length = 2 ∧ whole.functions.length = 3 := by
  have hbuild := (Document.build_eq_ok_iff true shelfInventory _).mpr
    ⟨shelfInventory_buildable true, rfl⟩
  obtain ⟨part, hpart, hpartOf⟩ := build_user_isPartOf_build_all hbuild
  obtain ⟨-, rfl⟩ := (Document.build_eq_ok_iff false shelfInventory part).mp hpart
  have hlength : ∀ includeAll, (shelfInventory.document includeAll).functions.length =
      (shelfInventory.retainedFunctions includeAll).length := by
    intro includeAll
    simp only [Inventory.document, sortedByName, List.length_mergeSort, List.length_map]
  refine ⟨_, _, hbuild, hpart, hpartOf, ?_, ?_⟩
  · rw [hlength]
    rfl
  · rw [hlength]
    rfl

end SymbolReference

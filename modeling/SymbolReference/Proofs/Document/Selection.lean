import SymbolReference.Document.Build
import SymbolReference.Proofs.Outcome

namespace SymbolReference

/-- The symbols among some entries. -/
def symbolsOf (entries : List Entry) : List Symbol :=
  entries.filterMap fun entry =>
    match entry with
    | .symbol s => some s
    | .other _ => none

/-- An entry is a symbol of a given kind. -/
def Entry.IsOf (kind : Kind) : Entry → Prop
  | .symbol s => s.kind = kind
  | .other _ => False

/-- A collection is present and holds symbols of one kind only. -/
def HoldsOnly (kind : Kind) : Option (List Entry) → Prop
  | none => False
  | some entries => ∀ entry ∈ entries, entry.IsOf kind

instance (kind : Kind) : (entry : Entry) → Decidable (entry.IsOf kind)
  | .symbol s => inferInstanceAs (Decidable (s.kind = kind))
  | .other _ => inferInstanceAs (Decidable False)

instance (kind : Kind) : (entries : Option (List Entry)) → Decidable (HoldsOnly kind entries)
  | none => inferInstanceAs (Decidable False)
  | some entries => inferInstanceAs (Decidable (∀ entry ∈ entries, entry.IsOf kind))

theorem kind_of_mem_symbolsOf {kind : Kind} {entries : List Entry} {s : Symbol}
    (h : HoldsOnly kind (some entries)) (hs : s ∈ symbolsOf entries) : s.kind = kind := by
  obtain ⟨entry, hentry, hsome⟩ := List.mem_filterMap.mp hs
  cases entry with
  | other v => cases hsome
  | symbol t =>
      cases hsome
      exact h _ hentry

theorem checkedFrom_eq_ok_iff (collection : Collection) (kind : Kind) (index : Nat)
    (entries : List Entry) (symbols : List Symbol) :
    checkedFrom collection kind index entries = .ok symbols ↔
      HoldsOnly kind (some entries) ∧ symbols = symbolsOf entries := by
  induction entries generalizing index symbols with
  | nil =>
      constructor
      · intro h
        cases h
        exact ⟨by simp [HoldsOnly], rfl⟩
      · rintro ⟨-, rfl⟩
        rfl
  | cons entry others ih =>
      simp only [HoldsOnly, List.forall_mem_cons]
      cases entry with
      | other v =>
          constructor
          · intro h
            cases h
          · rintro ⟨⟨hentry, -⟩, -⟩
            exact hentry.elim
      | symbol s =>
          by_cases hkind : s.kind = kind
          · simp only [checkedFrom, hkind, if_true, bind_eq_ok_iff, pure_eq_ok_iff, ih]
            constructor
            · rintro ⟨rest, ⟨hothers, rfl⟩, rfl⟩
              exact ⟨⟨hkind, hothers⟩, rfl⟩
            · rintro ⟨⟨-, hothers⟩, rfl⟩
              exact ⟨symbolsOf others, ⟨hothers, rfl⟩, rfl⟩
          · simp only [checkedFrom, hkind, if_false]
            constructor
            · intro h
              cases h
            · rintro ⟨⟨hentry, -⟩, -⟩
              exact absurd hentry hkind

theorem checked_eq_ok_iff (collection : Collection) (kind : Kind) (entries : Option (List Entry))
    (symbols : List Symbol) :
    checked collection kind entries = .ok symbols ↔
      HoldsOnly kind entries ∧ symbols = symbolsOf (entries.getD []) := by
  cases entries with
  | none =>
      constructor
      · intro h
        cases h
      · rintro ⟨h, -⟩
        exact h.elim
  | some entries => exact checkedFrom_eq_ok_iff collection kind 0 entries symbols

/-- The symbols of a partition that a document shows: all of them, or the user-defined ones. -/
def retainedOf (includeAll : Bool) (entries : Option (List Entry)) : List Symbol :=
  (symbolsOf (entries.getD [])).filter fun s => includeAll || s.userDefined

theorem retainedOf_true (entries : Option (List Entry)) :
    retainedOf true entries = symbolsOf (entries.getD []) :=
  List.filter_eq_self.mpr fun _ _ => rfl

theorem retainedOf_false (entries : Option (List Entry)) :
    retainedOf false entries = (symbolsOf (entries.getD [])).filter Symbol.userDefined :=
  List.filter_congr fun _ _ => rfl

theorem kind_of_mem_retainedOf {includeAll : Bool} {kind : Kind} {entries : Option (List Entry)}
    {s : Symbol} (h : HoldsOnly kind entries) (hs : s ∈ retainedOf includeAll entries) :
    s.kind = kind := by
  cases entries with
  | none => exact h.elim
  | some entries => exact kind_of_mem_symbolsOf h (List.mem_filter.mp hs).1

theorem functionsOf_eq_ok_iff (includeAll : Bool)
    (partitions : List (String × Option (List Entry))) (symbols : List Symbol) :
    functionsOf includeAll partitions = .ok symbols ↔
      (∀ partition ∈ partitions, HoldsOnly .function partition.2) ∧
        symbols = partitions.flatMap fun partition => retainedOf includeAll partition.2 := by
  induction partitions generalizing symbols with
  | nil =>
      constructor
      · intro h
        cases h
        exact ⟨by simp, rfl⟩
      · rintro ⟨-, rfl⟩
        rfl
  | cons partition others ih =>
      simp only [functionsOf, bind_eq_ok_iff, pure_eq_ok_iff, checked_eq_ok_iff, ih,
        List.forall_mem_cons, List.flatMap_cons]
      constructor
      · rintro ⟨found, ⟨hfound, rfl⟩, rest, ⟨hrest, rfl⟩, rfl⟩
        exact ⟨⟨hfound, hrest⟩, rfl⟩
      · rintro ⟨⟨hfound, hrest⟩, rfl⟩
        exact ⟨_, ⟨hfound, rfl⟩, _, ⟨hrest, rfl⟩, rfl⟩

/-- The methods of a class that a document shows, in the order found. -/
def Symbol.retainedMethods (includeAll : Bool) (c : Symbol) : List Symbol :=
  retainedOf includeAll c.methods

namespace Inventory

/-- The functions that a document shows, in the order found: those of all partitions, or the
user-defined ones of the user partition. -/
def retainedFunctions (includeAll : Bool) (inventory : Inventory) : List Symbol :=
  match inventory.functions with
  | none => []
  | some functions =>
    if includeAll then functions.values.flatMap fun entries => symbolsOf (entries.getD [])
    else (symbolsOf ((functions.get? userPartition).join.getD [])).filter Symbol.userDefined

/-- The classes that a document shows, in the order found. -/
def retainedClasses (includeAll : Bool) (inventory : Inventory) : List Symbol :=
  retainedOf includeAll inventory.classes

/-- The constants that a document shows. -/
def retainedConstants (includeAll : Bool) (inventory : Inventory) : Mapping Value :=
  match inventory.constants with
  | none => Mapping.empty
  | some constants =>
    if includeAll then mergedConstants constants.values
    else (constants.get? userPartition).join.getD Mapping.empty

end Inventory

theorem retained_consideredPartitions (includeAll : Bool)
    (functions : Mapping (Option (List Entry))) :
    ((consideredPartitions includeAll functions).flatMap fun partition =>
        retainedOf includeAll partition.2) =
      if includeAll then functions.values.flatMap fun entries => symbolsOf (entries.getD [])
      else (symbolsOf ((functions.get? userPartition).join.getD [])).filter Symbol.userDefined := by
  cases includeAll with
  | true => simp [consideredPartitions, retainedOf_true, Mapping.values, Mapping.toList,
      List.flatMap_map]
  | false =>
      cases hget : functions.get? userPartition with
      | none => simp [consideredPartitions, retainedOf_false, hget]
      | some entries => simp [consideredPartitions, retainedOf_false, hget]

theorem kind_of_mem_retainedFunctions {includeAll : Bool} {inventory : Inventory}
    {functions : Mapping (Option (List Entry))} (hfunctions : inventory.functions = some functions)
    (h : ∀ partition ∈ consideredPartitions includeAll functions, HoldsOnly .function partition.2)
    {s : Symbol} (hs : s ∈ inventory.retainedFunctions includeAll) : s.kind = .function := by
  simp only [Inventory.retainedFunctions, hfunctions, ← retained_consideredPartitions] at hs
  obtain ⟨partition, hpartition, hs⟩ := List.mem_flatMap.mp hs
  exact kind_of_mem_retainedOf (h partition hpartition) hs

theorem selectFunctions_eq_ok_iff (includeAll : Bool) (inventory : Inventory)
    (symbols : List Symbol) :
    selectFunctions includeAll inventory.functions = .ok symbols ↔
      (∃ functions, inventory.functions = some functions ∧
        ∀ partition ∈ consideredPartitions includeAll functions,
          HoldsOnly .function partition.2) ∧
      symbols = inventory.retainedFunctions includeAll := by
  rw [Inventory.retainedFunctions]
  cases inventory.functions with
  | none => simp [selectFunctions]
  | some functions =>
      simp only [selectFunctions, functionsOf_eq_ok_iff, retained_consideredPartitions,
        Option.some.injEq, exists_eq_left']

theorem selectClasses_eq_ok_iff (includeAll : Bool) (inventory : Inventory)
    (symbols : List Symbol) :
    selectClasses includeAll inventory.classes = .ok symbols ↔
      HoldsOnly .klass inventory.classes ∧ symbols = inventory.retainedClasses includeAll := by
  rw [Inventory.retainedClasses]
  cases inventory.classes with
  | none => simp [selectClasses, HoldsOnly]
  | some entries =>
      simp only [selectClasses, bind_eq_ok_iff, pure_eq_ok_iff, checked_eq_ok_iff]
      constructor
      · rintro ⟨found, ⟨hfound, rfl⟩, rfl⟩
        exact ⟨hfound, rfl⟩
      · rintro ⟨hfound, rfl⟩
        exact ⟨_, ⟨hfound, rfl⟩, rfl⟩

theorem selectConstants_eq_ok_iff (includeAll : Bool) (inventory : Inventory)
    (constants : Mapping Value) :
    selectConstants includeAll inventory.constants = .ok constants ↔
      inventory.constants.isSome = true ∧
        constants = inventory.retainedConstants includeAll := by
  rw [Inventory.retainedConstants]
  cases inventory.constants with
  | none => simp [selectConstants]
  | some partitions =>
      cases includeAll with
      | true => simp [selectConstants, eq_comm]
      | false =>
          cases hget : partitions.get? userPartition with
          | none => simp [selectConstants, hget, eq_comm]
          | some entries => simp [selectConstants, hget, eq_comm]

end SymbolReference

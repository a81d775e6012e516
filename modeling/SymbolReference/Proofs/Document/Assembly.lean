import SymbolReference.Proofs.Document.NameOrder
import SymbolReference.Proofs.Document.Selection

namespace SymbolReference

/-- A symbol with an owner: its own one when that is not empty, otherwise the given one. Nothing
else changes. -/
def Symbol.withOwner (owner : String) (s : Symbol) : Symbol :=
  .mk { s.declaration with owner := some (s.owner?.getD owner) } s.methods

theorem Symbol.ownedBy_eq_withOwner (owner : String) (s : Symbol) :
    s.ownedBy owner = s.withOwner owner := by
  obtain ⟨d, methods⟩ := s
  simp only [Symbol.ownedBy, Symbol.withOwner, Symbol.declaration, Symbol.methods]
  cases howner : (Symbol.mk d methods).owner? with
  | none => rfl
  | some own =>
      have hd : d.owner = some own := (Option.filter_eq_some_iff.mp howner).1
      show Symbol.mk d methods = .mk { d with owner := some own } methods
      rw [← hd]

/-- The model of a symbol without methods. -/
def Symbol.plainModel (s : Symbol) : Model :=
  .mk s (commentOf s) []

/-- The model of a class with its retained methods. -/
def Symbol.classModel (includeAll : Bool) (c : Symbol) : Model :=
  .mk c (commentOf c)
    (sortedByName ((c.retainedMethods includeAll).map fun m => (m.withOwner c.name).plainModel))

/-- The methods of a class are methods throughout, and the retained ones have owners. -/
def Symbol.MethodsOwned (includeAll : Bool) (c : Symbol) : Prop :=
  HoldsOnly .method c.methods ∧
    ∀ m ∈ c.retainedMethods includeAll, (m.withOwner c.name).owner?.isSome = true

instance (includeAll : Bool) (c : Symbol) : Decidable (c.MethodsOwned includeAll) :=
  inferInstanceAs (Decidable (_ ∧ _))

namespace Inventory

/-- The collections that are considered are present and hold symbols of their kinds only, and the
shown methods have owners. -/
structure Buildable (includeAll : Bool) (inventory : Inventory) : Prop where
  functions : ∃ functions, inventory.functions = some functions ∧
    ∀ partition ∈ consideredPartitions includeAll functions, HoldsOnly .function partition.2
  classes : HoldsOnly .klass inventory.classes
  constants : inventory.constants.isSome = true
  methods : ∀ c ∈ inventory.retainedClasses includeAll, c.MethodsOwned includeAll

/-- The document of the retained symbols. -/
def document (includeAll : Bool) (inventory : Inventory) : Document where
  functions := sortedByName ((inventory.retainedFunctions includeAll).map Symbol.plainModel)
  classes := sortedByName ((inventory.retainedClasses includeAll).map (Symbol.classModel includeAll))
  constants := (inventory.retainedConstants includeAll).toList.map fun entry =>
    .mk (Symbol.constant entry.1 entry.2) Comment.empty []
  includeAll := includeAll

end Inventory

theorem Model.make_eq_ok_iff (s : Symbol) (comment : Comment) (methods : List Model) (m : Model) :
    Model.make s comment methods = .ok m ↔
      ((s.kind = .method → s.owner?.isSome = true) ∧ (methods ≠ [] → s.kind = .klass)) ∧
        m = .mk s comment methods := by
  rw [Model.make]
  by_cases howner : s.kind = .method ∧ s.owner?.isNone = true
  · rw [if_pos (by simpa using howner)]
    constructor
    · intro h
      cases h
    · rintro ⟨⟨h, -⟩, -⟩
      have hsome := h howner.1
      simp_all
  · rw [if_neg (by simpa using howner)]
    by_cases hmethods : methods ≠ [] ∧ s.kind ≠ .klass
    · rw [if_pos (by simpa using hmethods)]
      constructor
      · intro h
        cases h
      · rintro ⟨⟨-, h⟩, -⟩
        exact absurd (h hmethods.1) hmethods.2
    · rw [if_neg (by simpa using hmethods)]
      constructor
      · intro h
        cases h
        refine ⟨⟨fun hkind => ?_, fun hne => ?_⟩, rfl⟩
        · simpa [hkind, Option.isSome_iff_ne_none] using howner
        · simpa [hne] using hmethods
      · rintro ⟨-, rfl⟩
        rfl

theorem resolve_eq_ok_iff (s : Symbol) (m : Model) :
    resolve s = .ok m ↔ (s.kind = .method → s.owner?.isSome = true) ∧ m = s.plainModel := by
  rw [resolve, Model.make_eq_ok_iff]
  simp [Symbol.plainModel]

theorem methodsOf_eq_ok_iff (includeAll : Bool) (c : Symbol) (methods : List Symbol) :
    methodsOf includeAll c = .ok methods ↔ HoldsOnly .method c.methods ∧
      methods = (c.retainedMethods includeAll).map (Symbol.withOwner c.name) := by
  have howned : Symbol.ownedBy c.name = Symbol.withOwner c.name :=
    funext (Symbol.ownedBy_eq_withOwner c.name)
  simp only [methodsOf, bind_eq_ok_iff, pure_eq_ok_iff, checked_eq_ok_iff, howned]
  constructor
  · rintro ⟨found, ⟨hfound, rfl⟩, rfl⟩
    exact ⟨hfound, rfl⟩
  · rintro ⟨hfound, rfl⟩
    exact ⟨_, ⟨hfound, rfl⟩, rfl⟩

theorem resolveClass_eq_ok_iff {includeAll : Bool} {c : Symbol} (hc : c.kind = .klass)
    (m : Model) :
    resolveClass includeAll c = .ok m ↔
      c.MethodsOwned includeAll ∧ m = c.classModel includeAll := by
  have hmodels := fun methods : List Symbol =>
    mapM_eq_ok_iff fun s (_ : s ∈ methods) => resolve_eq_ok_iff s
  simp only [resolveClass, bind_eq_ok_iff, methodsOf_eq_ok_iff, Model.make_eq_ok_iff]
  constructor
  · rintro ⟨methods, ⟨hmethods, rfl⟩, models, hmap, -, rfl⟩
    obtain ⟨howners, rfl⟩ := (hmodels _ models).mp hmap
    refine ⟨⟨hmethods, fun s hs => ?_⟩, ?_⟩
    · have hkind : s.kind = .method := kind_of_mem_retainedOf hmethods hs
      exact howners _ (List.mem_map_of_mem hs) hkind
    · rw [Symbol.classModel, List.map_map]
      rfl
  · rintro ⟨⟨hmethods, howners⟩, rfl⟩
    refine ⟨_, ⟨hmethods, rfl⟩, _, (hmodels _ _).mpr ⟨?_, rfl⟩, ⟨?_, fun _ => hc⟩, ?_⟩
    · intro s hs _
      obtain ⟨t, ht, rfl⟩ := List.mem_map.mp hs
      exact howners t ht
    · simp [hc]
    · rw [Symbol.classModel, List.map_map]
      rfl

theorem mapM_resolve_function {functions : List Symbol}
    (h : ∀ s ∈ functions, s.kind = .function) (models : List Model) :
    functions.mapM resolve = .ok models ↔ models = functions.map Symbol.plainModel := by
  rw [mapM_eq_ok_iff fun s _ => resolve_eq_ok_iff s]
  constructor
  · exact And.right
  · intro hmodels
    exact ⟨fun s hs hkind => by simp [h s hs] at hkind, hmodels⟩

theorem mapM_make_constant (entries : List (String × Value)) (models : List Model) :
    (entries.mapM fun entry => Model.make (Symbol.constant entry.1 entry.2) Comment.empty []) =
        .ok models ↔
      models = entries.map fun entry => .mk (Symbol.constant entry.1 entry.2) Comment.empty [] := by
  have hconstant : ∀ name value, (Symbol.constant name value).kind = .constant := fun _ _ => rfl
  rw [mapM_eq_ok_iff fun entry _ => Model.make_eq_ok_iff (Symbol.constant entry.1 entry.2) _ _]
  simp [hconstant]

theorem mapM_resolveClass {includeAll : Bool} {classes : List Symbol}
    (h : ∀ c ∈ classes, c.kind = .klass) (models : List Model) :
    classes.mapM (resolveClass includeAll) = .ok models ↔
      (∀ c ∈ classes, c.MethodsOwned includeAll) ∧
        models = classes.map (Symbol.classModel includeAll) :=
  mapM_eq_ok_iff (fun c hc => resolveClass_eq_ok_iff (h c hc)) models

/-- A document is built exactly from a buildable inventory, and it is the document of the retained
symbols. -/
theorem Document.build_eq_ok_iff (includeAll : Bool) (inventory : Inventory) (d : Document) :
    Document.build includeAll inventory = .ok d ↔
      inventory.Buildable includeAll ∧ d = inventory.document includeAll := by
  simp only [Document.build, select, bind_eq_ok_iff, pure_eq_ok_iff, selectFunctions_eq_ok_iff,
    selectClasses_eq_ok_iff, selectConstants_eq_ok_iff, mapM_make_constant]
  -- The kinds of the selected symbols decide how their models are made.
  constructor
  · rintro ⟨selection, ⟨functions, ⟨⟨found, hfound, hholds⟩, rfl⟩, classes, ⟨hkinds, rfl⟩,
      constants, ⟨hconstants, rfl⟩, rfl⟩, functionModels, hf, classModels, hc, constantModels, rfl,
      rfl⟩
    obtain rfl := (mapM_resolve_function
      (fun s hs => kind_of_mem_retainedFunctions hfound hholds hs) functionModels).mp hf
    obtain ⟨hmethods, rfl⟩ := (mapM_resolveClass
      (fun c hc => kind_of_mem_retainedOf hkinds hc) classModels).mp hc
    exact ⟨⟨⟨found, hfound, hholds⟩, hkinds, hconstants, hmethods⟩, rfl⟩
  · rintro ⟨⟨⟨found, hfound, hholds⟩, hkinds, hconstants, hmethods⟩, rfl⟩
    refine ⟨_, ⟨_, ⟨⟨found, hfound, hholds⟩, rfl⟩, _, ⟨hkinds, rfl⟩, _, ⟨hconstants, rfl⟩, rfl⟩,
      _, ?_, _, ?_, _, rfl, rfl⟩
    · exact (mapM_resolve_function
        (fun s hs => kind_of_mem_retainedFunctions hfound hholds hs) _).mpr rfl
    · exact (mapM_resolveClass
        (fun c hc => kind_of_mem_retainedOf hkinds hc) _).mpr ⟨hmethods, rfl⟩

theorem exists_of_mem_classes {includeAll : Bool} {inventory : Inventory} {m : Model}
    (h : m ∈ (inventory.document includeAll).classes) :
    ∃ c ∈ inventory.retainedClasses includeAll, m = c.classModel includeAll := by
  obtain ⟨c, hc, rfl⟩ := List.mem_map.mp (List.mem_mergeSort.mp h)
  exact ⟨c, hc, rfl⟩

theorem exists_of_mem_functions {includeAll : Bool} {inventory : Inventory} {m : Model}
    (h : m ∈ (inventory.document includeAll).functions) :
    ∃ s ∈ inventory.retainedFunctions includeAll, m = s.plainModel := by
  obtain ⟨s, hs, rfl⟩ := List.mem_map.mp (List.mem_mergeSort.mp h)
  exact ⟨s, hs, rfl⟩

theorem exists_of_mem_methods {includeAll : Bool} {c : Symbol} {m : Model}
    (h : m ∈ (c.classModel includeAll).methods) :
    ∃ s ∈ c.retainedMethods includeAll, m = (s.withOwner c.name).plainModel := by
  obtain ⟨s, hs, rfl⟩ := List.mem_map.mp (List.mem_mergeSort.mp h)
  exact ⟨s, hs, rfl⟩

theorem map_symbol_plainModel (symbols : List Symbol) :
    (symbols.map Symbol.plainModel).map Model.symbol = symbols := by
  rw [List.map_map]
  exact List.map_id symbols

theorem map_symbol_classModel (includeAll : Bool) (classes : List Symbol) :
    (classes.map (Symbol.classModel includeAll)).map Model.symbol = classes := by
  rw [List.map_map]
  exact List.map_id classes

theorem comment_of_mem_symbols {includeAll : Bool} {inventory : Inventory} {m : Model}
    (h : m ∈ (inventory.document includeAll).symbols) :
    m.comment = Comment.parse? m.declaration.comment := by
  simp only [Document.symbols, List.mem_append, List.mem_flatMap, List.mem_cons] at h
  rcases h with (h | ⟨c, hc, h⟩) | h
  · obtain ⟨s, -, rfl⟩ := exists_of_mem_functions h
    rfl
  · obtain ⟨s, -, rfl⟩ := exists_of_mem_classes hc
    rcases h with rfl | h
    · rfl
    · obtain ⟨t, -, rfl⟩ := exists_of_mem_methods h
      rfl
  · obtain ⟨entry, -, rfl⟩ := List.mem_map.mp h
    rfl

/-- What a built document shows. Its functions, its classes and the methods of each class are the
one list that holds the retained symbols in the order of their names, with the owners of methods
filled in; every comment is the one read from the symbol, and only classes have methods. -/
theorem build_shows_retained {includeAll : Bool} {inventory : Inventory} {d : Document}
    (h : Document.build includeAll inventory = .ok d) :
    (∀ symbols, symbols = d.functions.map Model.symbol ↔
      InNameOrder Symbol.name (inventory.retainedFunctions includeAll) symbols) ∧
    (∀ symbols, symbols = d.classes.map Model.symbol ↔
      InNameOrder Symbol.name (inventory.retainedClasses includeAll) symbols) ∧
    (∀ c ∈ d.classes, ∀ symbols, symbols = c.methods.map Model.symbol ↔
      InNameOrder Symbol.name
        ((c.symbol.retainedMethods includeAll).map (Symbol.withOwner c.name)) symbols) ∧
    (∀ m ∈ d.symbols, m.comment = Comment.parse? m.declaration.comment) ∧
    (∀ m ∈ d.functions, m.methods = []) ∧
    (∀ c ∈ d.classes, ∀ m ∈ c.methods, m.methods = []) := by
  obtain ⟨-, rfl⟩ := (Document.build_eq_ok_iff includeAll inventory d).mp h
  refine ⟨?_, ?_, ?_, fun m hm => comment_of_mem_symbols hm, ?_, ?_⟩
  · have horder := inNameOrder_sortedByName
      ((inventory.retainedFunctions includeAll).map Symbol.plainModel)
    rw [map_symbol_plainModel] at horder
    exact horder.eq_iff
  · have horder := inNameOrder_sortedByName
      ((inventory.retainedClasses includeAll).map (Symbol.classModel includeAll))
    rw [map_symbol_classModel] at horder
    exact horder.eq_iff
  · intro c hc
    obtain ⟨s, -, rfl⟩ := exists_of_mem_classes hc
    have horder := inNameOrder_sortedByName
      (((s.retainedMethods includeAll).map (Symbol.withOwner s.name)).map Symbol.plainModel)
    rw [map_symbol_plainModel, List.map_map] at horder
    exact horder.eq_iff
  · intro m hm
    obtain ⟨s, -, rfl⟩ := exists_of_mem_functions hm
    rfl
  · intro c hc m hm
    obtain ⟨s, -, rfl⟩ := exists_of_mem_classes hc
    obtain ⟨t, -, rfl⟩ := exists_of_mem_methods hm
    rfl

/-- A small inventory: two partitions of functions with a name in common, a class with methods of
its own, of another class and of the host, and a constant. -/
def shelfInventory : Inventory where
  functions := some (.ofList [
    ("builtin", some [.symbol (.leaf { kind := .function, name := "add", userDefined := false })]),
    ("user", some [
      .symbol (.leaf { kind := .function, name := "sort" }),
      .symbol (.leaf { kind := .function, name := "add", comment := some "Adds.\n@see sort" })])])
  classes := some [.symbol (.mk { kind := .klass, name := "Shelf" } (some [
    .symbol (.leaf { kind := .method, name := "take" }),
    .symbol (.leaf { kind := .method, name := "put", owner := some "Store" }),
    .symbol (.leaf { kind := .method, name := "hash", userDefined := false })]))]
  constants := some (.ofList [("user", some (.ofList [("LIMIT", .int 3)]))])

theorem shelfInventory_buildable (includeAll : Bool) : shelfInventory.Buildable includeAll := by
  cases includeAll with
  | false => exact ⟨⟨_, rfl, by decide⟩, by decide, rfl, by decide⟩
  | true => exact ⟨⟨_, rfl, by decide⟩, by decide, rfl, by decide⟩

theorem build_shows_retained_shelf : ∃ d, Document.build true shelfInventory = .ok d ∧
    (∀ symbols, symbols = d.functions.map Model.symbol ↔
      InNameOrder Symbol.name (shelfInventory.retainedFunctions true) symbols) ∧
    ∀ c ∈ d.classes, ∀ symbols, symbols = c.methods.map Model.symbol ↔
      InNameOrder Symbol.name
        ((c.symbol.retainedMethods true).map (Symbol.withOwner c.name)) symbols := by
  have hbuild := (Document.build_eq_ok_iff true shelfInventory _).mpr
    ⟨shelfInventory_buildable true, rfl⟩
  obtain ⟨hfunctions, -, hmethods, -⟩ := build_shows_retained hbuild
  exact ⟨_, hbuild, hfunctions, hmethods⟩

end SymbolReference

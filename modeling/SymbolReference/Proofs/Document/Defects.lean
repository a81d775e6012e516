import SymbolReference.Proofs.Document.Assembly

namespace SymbolReference

/-- What is wrong with an inventory: a collection is missing, an entry has no place in its
collection, or a shown method belongs to no class. An entry without a place is unwritable if it
cannot be shown in a message. -/
inductive Defect where
  | missing (collection : String)
  | misplaced (collection : String) (index : Nat)
  | unwritable (collection : String) (index : Nat)
  | ownerless (method : String)
deriving Repr, DecidableEq

/-- What comes of a defect: an invalid symbol with its collection and its place in it, or a method
without an owner. An unwritable entry is not reported: the number in it that has too many digits
is. -/
def Defect.ReportedAs (failure : Failure) : Defect → Prop
  | missing collection =>
    ∃ f, failure = .fault f ∧ f.kind = .invalidSymbol ∧
      f.context.toList = [("collection", .str collection)]
  | misplaced collection index =>
    ∃ f, failure = .fault f ∧ f.kind = .invalidSymbol ∧
      f.context.toList = [("collection", .str collection), ("index", .int index)]
  | unwritable _ _ => failure = .number .unwritable
  | ownerless method =>
    ∃ f, failure = .fault f ∧ f.kind = .symbolInvariant ∧
      f.context.toList = [("symbol", .str method)]

/-- The defect of an entry at a place of a collection of symbols of one kind. -/
def entryDefect (collection : String) (kind : Kind) (index : Nat) : Entry → Option Defect
  | .symbol s => if s.kind = kind then none else some (.misplaced collection index)
  | .other v =>
    if v.isWritable then some (.misplaced collection index)
    else some (.unwritable collection index)

/-- The defects of the entries of a list, in order. -/
def entryDefects (collection : String) (kind : Kind) (entries : List Entry) : List Defect :=
  entries.zipIdx.filterMap fun (entry, index) => entryDefect collection kind index entry

/-- The defects of a collection that has to be present. -/
def collectionDefects (collection : String) (kind : Kind) : Option (List Entry) → List Defect
  | none => [.missing collection]
  | some entries => entryDefects collection kind entries

/-- The shown methods of a class that have no owner: a class without a name owns nothing. -/
def ownerlessMethods (includeAll : Bool) (c : Symbol) : List Defect :=
  if c.name = "" then
    ((c.retainedMethods includeAll).filter fun m => m.owner?.isNone).map fun m => .ownerless m.name
  else []

def methodDefects (includeAll : Bool) (c : Symbol) : List Defect :=
  collectionDefects (c.name ++ ".methods") .method c.methods ++ ownerlessMethods includeAll c

namespace Inventory

/-- The defects of the functions: of all partitions, or of the user partition, which may be
absent. -/
def functionDefects (includeAll : Bool) (inventory : Inventory) : List Defect :=
  match inventory.functions with
  | none => [.missing "functions"]
  | some functions =>
    let partitions :=
      if includeAll then functions.toList
      else [("user", (functions.get? "user").getD (some []))]
    partitions.flatMap fun (name, entries) =>
      collectionDefects ("functions[" ++ name ++ "]") .function entries

/-- The defects of an inventory in the order in which they are looked for. Whether an entry is
misplaced does not depend on whether it is shown. -/
def defects (includeAll : Bool) (inventory : Inventory) : List Defect :=
  inventory.functionDefects includeAll ++
    collectionDefects "classes" .klass inventory.classes ++
    (if inventory.constants.isNone then [.missing "constants"] else []) ++
    (inventory.retainedClasses includeAll).flatMap (methodDefects includeAll)

end Inventory

/-- A step that succeeds without defects, and otherwise fails with the first one. -/
def EndsAt {α : Type} (x : Except DocumentError α) (defects : List Defect) (result : α) : Prop :=
  match defects with
  | [] => x = .ok result
  | defect :: _ => ∃ e, x = .error e ∧ defect.ReportedAs e.failure

namespace EndsAt

variable {α β : Type}

/-- One step after another: the defects of the second count when the first has none. -/
theorem bind {x : Except DocumentError α} {f : α → Except DocumentError β}
    {defects others : List Defect} {a : α} {b : β} (hx : EndsAt x defects a)
    (hf : defects = [] → EndsAt (f a) others b) : EndsAt (x >>= f) (defects ++ others) b := by
  rcases defects with _ | ⟨defect, rest⟩
  · obtain rfl : x = .ok a := hx
    exact hf rfl
  · obtain ⟨e, rfl, hreported⟩ := hx
    exact ⟨e, rfl, hreported⟩

theorem bind_ok {x : Except DocumentError α} {f : α → Except DocumentError β}
    {defects : List Defect} {a : α} {b : β} (hx : EndsAt x defects a) (hf : EndsAt (f a) [] b) :
    EndsAt (x >>= f) defects b := by
  simpa using hx.bind fun _ => hf

theorem map {x : Except DocumentError α} {defects : List Defect} {a : α} (hx : EndsAt x defects a)
    (g : α → β) : EndsAt (x >>= fun a => pure (g a)) defects (g a) :=
  hx.bind_ok rfl

theorem mapM {f : α → Except DocumentError β} {defects : α → List Defect} {g : α → β}
    {xs : List α} (h : ∀ x ∈ xs, EndsAt (f x) (defects x) (g x)) :
    EndsAt (xs.mapM f) (xs.flatMap defects) (xs.map g) := by
  induction xs with
  | nil => rfl
  | cons x xs ih =>
      rw [List.forall_mem_cons] at h
      rw [List.mapM_cons, List.flatMap_cons, List.map_cons]
      exact h.1.bind fun _ => (ih h.2).map fun rest => g x :: rest

end EndsAt

/-- The first entry without a place ends the check, however it is reported. -/
theorem notASymbol_reportedAs (collection : Collection) (index : Nat) (v : Value) :
    (if v.isWritable then Defect.misplaced collection.name index
      else .unwritable collection.name index).ReportedAs
        (DocumentError.notASymbol collection index v).failure := by
  by_cases hwritable : v.isWritable = true
  · rw [if_pos hwritable, DocumentError.failure, DocumentError.message, if_pos hwritable]
    exact ⟨_, rfl, rfl, rfl⟩
  · rw [if_neg hwritable, DocumentError.failure, DocumentError.message, if_neg hwritable]
    rfl

theorem checkedFrom_endsAt (collection : Collection) (kind : Kind) (index : Nat)
    (entries : List Entry) :
    EndsAt (checkedFrom collection kind index entries)
      ((entries.zipIdx index).filterMap fun (entry, index) =>
        entryDefect collection.name kind index entry)
      (symbolsOf entries) := by
  induction entries generalizing index with
  | nil => rfl
  | cons entry others ih =>
      rw [List.zipIdx_cons]
      cases entry with
      | other v =>
          have hdefect : entryDefect collection.name kind index (.other v) =
              some (if v.isWritable then .misplaced collection.name index
                else .unwritable collection.name index) := by
            rw [entryDefect, apply_ite some]
          rw [List.filterMap_cons_some (by exact hdefect)]
          exact ⟨_, rfl, notASymbol_reportedAs collection index v⟩
      | symbol s =>
          by_cases hkind : s.kind = kind
          · rw [List.filterMap_cons_none (by exact if_pos hkind), checkedFrom, if_pos hkind]
            exact (ih (index + 1)).map fun rest => s :: rest
          · rw [List.filterMap_cons_some (by exact if_neg hkind), checkedFrom, if_neg hkind]
            exact ⟨_, rfl, _, rfl, rfl, rfl⟩

theorem checked_endsAt (collection : Collection) (kind : Kind) (entries : Option (List Entry)) :
    EndsAt (checked collection kind entries) (collectionDefects collection.name kind entries)
      (symbolsOf (entries.getD [])) := by
  cases entries with
  | none => exact ⟨_, rfl, _, rfl, rfl, rfl⟩
  | some entries => exact checkedFrom_endsAt collection kind 0 entries

theorem holdsOnly_of_collectionDefects (collection : Collection) {kind : Kind}
    {entries : Option (List Entry)} (h : collectionDefects collection.name kind entries = []) :
    HoldsOnly kind entries := by
  have hends := checked_endsAt collection kind entries
  rw [h] at hends
  exact ((checked_eq_ok_iff collection kind entries _).mp hends).1

theorem functionsOf_endsAt (includeAll : Bool) (partitions : List (String × Option (List Entry))) :
    EndsAt (functionsOf includeAll partitions)
      (partitions.flatMap fun (name, entries) =>
        collectionDefects ("functions[" ++ name ++ "]") .function entries)
      (partitions.flatMap fun partition => retainedOf includeAll partition.2) := by
  induction partitions with
  | nil => rfl
  | cons partition others ih =>
      exact (checked_endsAt (.functions partition.1) .function partition.2).bind fun _ =>
        ih.map fun rest => retainedOf includeAll partition.2 ++ rest

theorem selectFunctions_endsAt (includeAll : Bool) (inventory : Inventory) :
    EndsAt (selectFunctions includeAll inventory.functions)
      (inventory.functionDefects includeAll) (inventory.retainedFunctions includeAll) := by
  rw [Inventory.functionDefects, Inventory.retainedFunctions]
  cases inventory.functions with
  | none => exact ⟨_, rfl, _, rfl, rfl, rfl⟩
  | some functions =>
      have hfunctions := functionsOf_endsAt includeAll (consideredPartitions includeAll functions)
      rw [retained_consideredPartitions] at hfunctions
      exact hfunctions

theorem selectClasses_endsAt (includeAll : Bool) (inventory : Inventory) :
    EndsAt (selectClasses includeAll inventory.classes)
      (collectionDefects "classes" .klass inventory.classes)
      (inventory.retainedClasses includeAll) := by
  rw [Inventory.retainedClasses]
  cases inventory.classes with
  | none => exact ⟨_, rfl, _, rfl, rfl, rfl⟩
  | some entries =>
      exact (checked_endsAt .classes .klass (some entries)).map
        fun symbols => symbols.filter (retained includeAll)

theorem selectConstants_endsAt (includeAll : Bool) (inventory : Inventory) :
    EndsAt (selectConstants includeAll inventory.constants)
      (if inventory.constants.isNone then [.missing "constants"] else [])
      (inventory.retainedConstants includeAll) := by
  cases hconstants : inventory.constants with
  | none => exact ⟨_, rfl, _, rfl, rfl, rfl⟩
  | some constants =>
      have hok := (selectConstants_eq_ok_iff includeAll inventory _).mpr
        ⟨by rw [hconstants]; rfl, rfl⟩
      rw [hconstants] at hok
      exact hok

theorem resolve_endsAt {s : Symbol} (hkind : s.kind = .method) :
    EndsAt (resolve s) (if s.owner?.isNone then [.ownerless s.name] else []) s.plainModel := by
  cases howner : s.owner? with
  | none =>
      refine ⟨.ownerless s.name, ?_, _, rfl, rfl, rfl⟩
      rw [resolve, Model.make, if_pos (by simp [hkind, howner])]
  | some owner => exact (resolve_eq_ok_iff s _).mpr ⟨fun _ => by rw [howner]; rfl, rfl⟩

theorem methodsOf_endsAt (includeAll : Bool) (c : Symbol) :
    EndsAt (methodsOf includeAll c) (collectionDefects (c.name ++ ".methods") .method c.methods)
      ((c.retainedMethods includeAll).map (Symbol.withOwner c.name)) := by
  have howned : Symbol.withOwner c.name = Symbol.ownedBy c.name :=
    funext fun m => (Symbol.ownedBy_eq_withOwner c.name m).symm
  rw [howned]
  exact (checked_endsAt (.methods c.name) .method c.methods).map
    fun symbols => (symbols.filter (retained includeAll)).map (Symbol.ownedBy c.name)

/-- With the name of its class filled in, a method is without owner only if it had none and the
class has no name. -/
theorem Symbol.isNone_owner?_withOwner (owner : String) (m : Symbol) :
    (m.withOwner owner).owner?.isNone = (owner.isEmpty && m.owner?.isNone) := by
  show ((some (m.owner?.getD owner)).filter fun owner => !owner.isEmpty).isNone = _
  cases howner : m.owner? with
  | none => cases hempty : owner.isEmpty <;> simp [hempty]
  | some own =>
      have hown : own.isEmpty = false := by
        simpa using (Option.filter_eq_some_iff.mp howner).2
      simp [hown]

theorem flatMap_ite_singleton {α β : Type} (p : α → Bool) (f : α → β) (xs : List α) :
    (xs.flatMap fun x => if p x then [f x] else []) = (xs.filter p).map f := by
  induction xs with
  | nil => rfl
  | cons x xs ih =>
      rw [List.flatMap_cons, ih]
      by_cases hx : p x = true
      · simp [hx]
      · simp [hx]

theorem flatMap_ownerless (includeAll : Bool) (c : Symbol) :
    (((c.retainedMethods includeAll).map (Symbol.withOwner c.name)).flatMap fun m =>
      if m.owner?.isNone then [.ownerless m.name] else []) = ownerlessMethods includeAll c := by
  have hname : ∀ m : Symbol, (m.withOwner c.name).name = m.name := fun _ => rfl
  rw [ownerlessMethods, List.flatMap_map]
  simp only [Symbol.isNone_owner?_withOwner, hname]
  by_cases hempty : c.name = ""
  · have htrue : c.name.isEmpty = true := by simpa using hempty
    simp only [htrue, Bool.true_and, if_pos hempty]
    exact flatMap_ite_singleton _ _ _
  · have hfalse : c.name.isEmpty = false := by simpa using hempty
    simp [hempty, hfalse]

theorem resolveClass_endsAt (includeAll : Bool) {c : Symbol} (hc : c.kind = .klass) :
    EndsAt (resolveClass includeAll c) (methodDefects includeAll c)
      (c.classModel includeAll) := by
  refine (methodsOf_endsAt includeAll c).bind fun hmethods => ?_
  have hkinds : HoldsOnly .method c.methods :=
    holdsOnly_of_collectionDefects (.methods c.name) hmethods
  have hmodels : EndsAt
      (((c.retainedMethods includeAll).map (Symbol.withOwner c.name)).mapM resolve)
      (ownerlessMethods includeAll c)
      (((c.retainedMethods includeAll).map (Symbol.withOwner c.name)).map Symbol.plainModel) := by
    rw [← flatMap_ownerless]
    refine EndsAt.mapM fun m hm => resolve_endsAt ?_
    obtain ⟨own, hown, rfl⟩ := List.mem_map.mp hm
    have hkind : own.kind = .method := kind_of_mem_retainedOf hkinds hown
    exact hkind
  have hmake : EndsAt (Model.make c (commentOf c) (sortedByName
      (((c.retainedMethods includeAll).map (Symbol.withOwner c.name)).map Symbol.plainModel)))
      [] (c.classModel includeAll) := by
    refine (Model.make_eq_ok_iff c _ _ _).mpr ⟨⟨by simp [hc], fun _ => hc⟩, ?_⟩
    rw [Symbol.classModel, List.map_map]
    rfl
  exact hmodels.bind_ok hmake

theorem select_endsAt (includeAll : Bool) (inventory : Inventory) :
    EndsAt (select includeAll inventory)
      (inventory.functionDefects includeAll ++
        (collectionDefects "classes" .klass inventory.classes ++
          if inventory.constants.isNone then [.missing "constants"] else []))
      { functions := inventory.retainedFunctions includeAll
        classes := inventory.retainedClasses includeAll
        constants := inventory.retainedConstants includeAll } :=
  (selectFunctions_endsAt includeAll inventory).bind fun _ =>
    (selectClasses_endsAt includeAll inventory).bind fun _ =>
      (selectConstants_endsAt includeAll inventory).bind_ok rfl

theorem build_endsAt (includeAll : Bool) (inventory : Inventory) :
    EndsAt (Document.build includeAll inventory) (inventory.defects includeAll)
      (inventory.document includeAll) := by
  rw [Inventory.defects, List.append_assoc (inventory.functionDefects includeAll)]
  refine (select_endsAt includeAll inventory).bind fun hselected => ?_
  simp only [List.append_eq_nil_iff] at hselected
  obtain ⟨hfunctions, hclasses, -⟩ := hselected
  -- Once everything is selected, only methods can lack something.
  have hselect := selectFunctions_endsAt includeAll inventory
  rw [hfunctions] at hselect
  obtain ⟨⟨found, hfound, hholds⟩, -⟩ :=
    (selectFunctions_eq_ok_iff includeAll inventory _).mp hselect
  have hfunctionModels : EndsAt ((inventory.retainedFunctions includeAll).mapM resolve) []
      ((inventory.retainedFunctions includeAll).map Symbol.plainModel) :=
    (mapM_resolve_function (fun s hs => kind_of_mem_retainedFunctions hfound hholds hs) _).mpr rfl
  have hkinds : HoldsOnly .klass inventory.classes :=
    holdsOnly_of_collectionDefects .classes hclasses
  have hclassModels := EndsAt.mapM fun c (hc : c ∈ inventory.retainedClasses includeAll) =>
    resolveClass_endsAt includeAll (kind_of_mem_retainedOf hkinds hc)
  have hconstantModels : EndsAt ((inventory.retainedConstants includeAll).toList.mapM fun entry =>
      Model.make (Symbol.constant entry.1 entry.2) Comment.empty []) []
      (inventory.document includeAll).constants :=
    (mapM_make_constant _ _).mpr rfl
  exact hfunctionModels.bind fun _ => hclassModels.bind_ok (hconstantModels.bind_ok rfl)

/-- A document is built exactly from an inventory without defects. Otherwise the first defect is
reported: as an invalid symbol with its collection and its place in it, or as a method without an
owner. Only an entry that cannot be written is not reported as what it is. -/
theorem build_reports_first_defect (includeAll : Bool) (inventory : Inventory) :
    ((∃ d, Document.build includeAll inventory = .ok d) ↔ inventory.defects includeAll = []) ∧
      ∀ defect, (inventory.defects includeAll).head? = some defect →
        ∃ e, Document.build includeAll inventory = .error e ∧ defect.ReportedAs e.failure := by
  have hends := build_endsAt includeAll inventory
  cases hdefects : inventory.defects includeAll with
  | nil =>
      rw [hdefects] at hends
      refine ⟨⟨fun _ => rfl, fun _ => ⟨_, hends⟩⟩, ?_⟩
      simp
  | cons defect others =>
      rw [hdefects] at hends
      obtain ⟨e, he, hreported⟩ := hends
      constructor
      · simp [he]
      · rintro first ⟨⟩
        exact ⟨e, he, hreported⟩

/-- An inventory whose partition of the host is missing, with a class without a name. Its first
method has an owner, its second one has none. -/
def namelessInventory : Inventory where
  functions := some (.ofList [("user", some []), ("builtin", none)])
  classes := some [.symbol (.mk { kind := .klass, name := "" } (some [
    .symbol (.leaf { kind := .method, name := "put", owner := some "Store" }),
    .symbol (.leaf { kind := .method, name := "take", owner := some "" })]))]
  constants := some (.ofList [])

/-- With all symbols the missing partition is reported; without those of the host it is not looked
at, and the method without an owner is. -/
theorem build_reports_first_defect_nameless :
    (∃ e f, Document.build true namelessInventory = .error e ∧ e.failure = .fault f ∧
      f.kind = .invalidSymbol ∧
      f.context.toList = [("collection", .str "functions[builtin]")]) ∧
    ∃ e f, Document.build false namelessInventory = .error e ∧ e.failure = .fault f ∧
      f.kind = .symbolInvariant ∧ f.context.toList = [("symbol", .str "take")] := by
  have hall : (namelessInventory.defects true).head? = some (.missing "functions[builtin]") := by
    decide
  have huser : (namelessInventory.defects false).head? = some (.ownerless "take") := by
    decide
  obtain ⟨e, he, f, hf⟩ := (build_reports_first_defect true _).2 _ hall
  obtain ⟨e', he', f', hf'⟩ := (build_reports_first_defect false _).2 _ huser
  exact ⟨⟨e, f, he, hf⟩, e', f', he', hf'⟩

/-- An inventory whose only function is a number with 5001 digits. -/
def hugeInventory : Inventory where
  functions := some (.ofList [("user", some [.other (.int (Int.ofNat (Nat.pow 10 5000)))])])
  classes := some []
  constants := some (.ofList [])

/-- The entry is no symbol, but there is no fault that says so. -/
theorem build_of_huge_reports_no_fault :
    ∃ e, Document.build true hugeInventory = .error e ∧ ∀ f, e.failure ≠ .fault f := by
  refine ⟨_, rfl, fun f => ?_⟩
  have hwritable : (Value.int (Int.ofNat (Nat.pow 10 5000))).isWritable = false := by decide +kernel
  rw [DocumentError.failure, DocumentError.message, hwritable]
  exact Failure.noConfusion

end SymbolReference

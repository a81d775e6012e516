import Mathlib.Data.List.Induction
import SymbolReference.Proofs.Document.Assembly
import SymbolReference.Proofs.Mapping

namespace SymbolReference

/-- Some names are those of a reading, each once, in the order in which they occur first. -/
structure InReadingOrder (reading names : List String) : Prop where
  distinct : names.Nodup
  mem_iff : ∀ name, name ∈ names ↔ name ∈ reading
  order : names.Pairwise fun a b => reading.idxOf a < reading.idxOf b

namespace InReadingOrder

variable {reading names : List String} {name : String}

theorem nil : InReadingOrder [] [] :=
  ⟨List.nodup_nil, fun _ => Iff.rfl, List.Pairwise.nil⟩

theorem order_append (h : InReadingOrder reading names) (more : List String) :
    names.Pairwise fun a b => (reading ++ more).idxOf a < (reading ++ more).idxOf b := by
  refine h.order.imp_of_mem fun {a b} ha hb hlt => ?_
  rw [List.idxOf_append_of_mem ((h.mem_iff a).mp ha),
    List.idxOf_append_of_mem ((h.mem_iff b).mp hb)]
  exact hlt

theorem read_known (h : InReadingOrder reading names) (hname : name ∈ names) :
    InReadingOrder (reading ++ [name]) names := by
  refine ⟨h.distinct, fun other => ?_, h.order_append [name]⟩
  rw [List.mem_append, List.mem_singleton, ← h.mem_iff]
  constructor
  · exact Or.inl
  · rintro (hother | rfl)
    · exact hother
    · exact hname

theorem read_new (h : InReadingOrder reading names) (hname : name ∉ names) :
    InReadingOrder (reading ++ [name]) (names ++ [name]) := by
  have hreading : name ∉ reading := fun hmem => hname ((h.mem_iff name).mpr hmem)
  refine ⟨?_, fun other => ?_, ?_⟩
  · refine List.nodup_append.mpr ⟨h.distinct, List.nodup_singleton name, ?_⟩
    rintro other hother last hlast rfl
    exact hname (List.mem_singleton.mp hlast ▸ hother)
  · rw [List.mem_append, List.mem_append, h.mem_iff]
  · refine List.pairwise_append.mpr ⟨h.order_append [name], List.pairwise_singleton _ _, ?_⟩
    rintro other hother last hlast
    obtain rfl := List.mem_singleton.mp hlast
    have hread : other ∈ reading := (h.mem_iff other).mp hother
    rw [List.idxOf_append_of_mem hread, List.idxOf_append_of_notMem hreading]
    exact Nat.lt_add_right _ (List.idxOf_lt_length_of_mem hread)

end InReadingOrder

namespace Mapping

variable {α : Type}

theorem names_insert_of_mem {m : Mapping α} {name : String} (h : name ∈ m.names) (value : α) :
    (m.insert name value).names = m.names := by
  show (writeEntry m.entries name value).map Prod.fst = m.entries.map Prod.fst
  rw [writeEntry_of_mem m.distinct h, List.map_map]
  refine List.map_congr_left fun entry _ => ?_
  by_cases hname : entry.1 = name
  · simp [hname]
  · simp [hname]

theorem names_insert_of_notMem {m : Mapping α} {name : String} (h : name ∉ m.names) (value : α) :
    (m.insert name value).names = m.names ++ [name] := by
  show (writeEntry m.entries name value).map Prod.fst = m.entries.map Prod.fst ++ [name]
  rw [writeEntry_of_notMem h, List.map_append]
  rfl

theorem inReadingOrder_insert {m : Mapping α} {reading : List String}
    (h : InReadingOrder reading m.names) (name : String) (value : α) :
    InReadingOrder (reading ++ [name]) (m.insert name value).names := by
  by_cases hname : name ∈ m.names
  · rw [names_insert_of_mem hname]
    exact h.read_known hname
  · rw [names_insert_of_notMem hname]
    exact h.read_new hname

theorem inReadingOrder_update {m : Mapping α} {reading : List String}
    (h : InReadingOrder reading m.names) (entries : List (String × α)) :
    InReadingOrder (reading ++ entries.map Prod.fst) (m.update entries).names := by
  induction entries generalizing m reading with
  | nil =>
      rw [List.map_nil, List.append_nil]
      exact h
  | cons entry others ih =>
      have hothers := ih (inReadingOrder_insert h entry.1 entry.2)
      rw [List.append_assoc] at hothers
      exact hothers

theorem inReadingOrder_ofList (entries : List (String × α)) :
    InReadingOrder (entries.map Prod.fst) (ofList entries).names := by
  have hempty : InReadingOrder [] (empty : Mapping α).names := InReadingOrder.nil
  exact inReadingOrder_update hempty entries

theorem update_update (m : Mapping α) (entries others : List (String × α)) :
    (m.update entries).update others = m.update (entries ++ others) :=
  (List.foldl_append ..).symm

theorem mem_of_mem_update {m other : Mapping α} {entry : String × α}
    (h : entry ∈ (m.update other.toList).toList) (hname : entry.1 ∈ other.names) :
    entry ∈ other.toList := by
  obtain ⟨name, value⟩ := entry
  rw [← get?_eq_some_iff, get?_update, Option.or_eq_some_iff] at h
  rcases h with h | ⟨hnone, -⟩
  · exact mem_of_lookup_reverse h
  · rw [lookup_eq_none_iff_notMem, List.map_reverse, List.mem_reverse] at hnone
    exact absurd hname hnone

end Mapping

/-- The constants of some partitions as they are read, one partition after the other. A missing
partition has none. -/
def readConstants (partitions : List (Option (Mapping Value))) : List (String × Value) :=
  partitions.flatMap fun partition => (partition.getD Mapping.empty).toList

theorem mergedConstants_eq_ofList (partitions : List (Option (Mapping Value))) :
    mergedConstants partitions = Mapping.ofList (readConstants partitions) := by
  have hfold : ∀ merged : Mapping Value,
      partitions.foldl (fun merged partition =>
        merged.update (partition.getD Mapping.empty).toList) merged =
      merged.update (readConstants partitions) := by
    induction partitions with
    | nil =>
        intro merged
        rfl
    | cons partition others ih =>
        intro merged
        rw [List.foldl_cons, ih, Mapping.update_update]
        rfl
  exact hfold Mapping.empty

/-- A constant has the value that the last partition with its name gives. -/
def LastGives (partitions : List (Option (Mapping Value))) (entry : String × Value) : Prop :=
  ∃ before last after, partitions = before ++ some last :: after ∧ entry ∈ last.toList ∧
    ∀ partition ∈ after, entry.1 ∉ (partition.getD Mapping.empty).names

theorem lastGives_concat {others : List (Option (Mapping Value))} {last : Mapping Value}
    {entry : String × Value} (h : entry ∈ last.toList) : LastGives (others ++ [some last]) entry :=
  ⟨others, last, [], rfl, h, fun _ hpartition => absurd hpartition List.not_mem_nil⟩

theorem LastGives.concat {others : List (Option (Mapping Value))} {entry : String × Value}
    (h : LastGives others entry) {last : Option (Mapping Value)}
    (hlast : entry.1 ∉ (last.getD Mapping.empty).names) : LastGives (others ++ [last]) entry := by
  obtain ⟨before, given, after, rfl, hgiven, hafter⟩ := h
  refine ⟨before, given, after ++ [last], by simp, hgiven, fun partition hpartition => ?_⟩
  rcases List.mem_append.mp hpartition with hmem | hmem
  · exact hafter partition hmem
  · exact List.mem_singleton.mp hmem ▸ hlast

theorem lastGives_of_mem_mergedConstants {partitions : List (Option (Mapping Value))}
    {entry : String × Value} (h : entry ∈ (mergedConstants partitions).toList) :
    LastGives partitions entry := by
  -- From the end, since the last partition with a name decides.
  induction partitions using List.reverseRecOn with
  | nil => cases h
  | append_singleton others last ih =>
      have hmerged : mergedConstants (others ++ [last]) =
          (mergedConstants others).update (last.getD Mapping.empty).toList := by
        rw [mergedConstants, List.foldl_append]
        rfl
      rw [hmerged] at h
      by_cases hname : entry.1 ∈ (last.getD Mapping.empty).names
      · cases last with
        | none => cases hname
        | some given => exact lastGives_concat (Mapping.mem_of_mem_update h hname)
      · refine LastGives.concat (ih ?_) hname
        rcases Mapping.mem_toList_update h with hothers | hlast
        · exact hothers
        · exact absurd (List.mem_map_of_mem hlast) hname

/-- The name and the value that a model of a constant shows. -/
def Model.entry (m : Model) : String × Value :=
  (m.name, m.declaration.value)

/-- The constants of a built document. With everything included they are those of all partitions:
every name once, in the order in which names occur first when the partitions are read in order, and
with the value of the last partition that has the name. Otherwise they are those of the user
partition as supplied. -/
theorem build_merges_constants {includeAll : Bool} {inventory : Inventory} {d : Document}
    (h : Document.build includeAll inventory = .ok d) :
    (∀ m ∈ d.constants, m.kind = .constant) ∧
    ∃ partitions, inventory.constants = some partitions ∧
      if includeAll then
        InReadingOrder (partitions.values.flatMap fun partition =>
          (partition.getD Mapping.empty).names) (d.constants.map Model.name) ∧
        ∀ m ∈ d.constants, LastGives partitions.values (m.name, m.declaration.value)
      else d.constants.map Model.entry =
        ((partitions.get? userPartition).join.getD Mapping.empty).toList := by
  obtain ⟨hbuildable, rfl⟩ := (Document.build_eq_ok_iff includeAll inventory d).mp h
  obtain ⟨partitions, hpartitions⟩ := Option.isSome_iff_exists.mp hbuildable.constants
  have hentries : (inventory.document includeAll).constants.map Model.entry =
      (inventory.retainedConstants includeAll).toList := by
    rw [Inventory.document, List.map_map]
    exact List.map_id _
  refine ⟨fun m hm => ?_, partitions, hpartitions, ?_⟩
  · obtain ⟨entry, -, rfl⟩ := List.mem_map.mp hm
    rfl
  rw [Inventory.retainedConstants, hpartitions] at hentries
  cases includeAll with
  | false => exact hentries
  | true =>
      simp only [if_true] at hentries ⊢
      have hnames : (inventory.document true).constants.map Model.name =
          (mergedConstants partitions.values).toList.map Prod.fst := by
        rw [← hentries, List.map_map]
        rfl
      have horder := Mapping.inReadingOrder_ofList (readConstants partitions.values)
      rw [readConstants, List.map_flatMap, ← readConstants, ← mergedConstants_eq_ofList] at horder
      refine ⟨hnames ▸ horder, fun m hm => lastGives_of_mem_mergedConstants ?_⟩
      rw [← hentries]
      exact List.mem_map_of_mem (f := Model.entry) hm

example : (mergedConstants [some (.ofList [("B", .int 1), ("A", .int 2)]), none,
    some (.ofList [("C", .int 3), ("B", .int 4)])]).toList =
      [("B", .int 4), ("A", .int 2), ("C", .int 3)] := rfl

/-- Partitions that share a name, one that is missing and one that is empty. -/
def overlappingInventory : Inventory :=
  { shelfInventory with
    constants := some (.ofList [
      ("user", some (.ofList [("LIMIT", .int 3), ("DEPTH", .int 1)])),
      ("lost", none),
      ("builtin", some (.ofList [("WIDTH", .int 8), ("LIMIT", .int 5)])),
      ("bare", some .empty)]) }

theorem overlappingInventory_buildable : overlappingInventory.Buildable true :=
  have hshelf := shelfInventory_buildable true
  ⟨hshelf.functions, hshelf.classes, rfl, hshelf.methods⟩

/-- A shared name stands where the first partition has it and takes the value of the last. -/
theorem build_merges_constants_overlapping : ∃ d,
    Document.build true overlappingInventory = .ok d ∧
    InReadingOrder ["LIMIT", "DEPTH", "WIDTH", "LIMIT"] (d.constants.map Model.name) ∧
    (∀ m ∈ d.constants, LastGives [some (.ofList [("LIMIT", .int 3), ("DEPTH", .int 1)]), none,
      some (.ofList [("WIDTH", .int 8), ("LIMIT", .int 5)]), some .empty]
      (m.name, m.declaration.value)) ∧
    d.constants.map Model.entry = [("LIMIT", .int 5), ("DEPTH", .int 1), ("WIDTH", .int 8)] := by
  have hbuild := (Document.build_eq_ok_iff true overlappingInventory _).mpr
    ⟨overlappingInventory_buildable, rfl⟩
  obtain ⟨-, partitions, hpartitions, horder, hlast⟩ := build_merges_constants hbuild
  cases hpartitions
  exact ⟨_, hbuild, horder, hlast, rfl⟩

end SymbolReference

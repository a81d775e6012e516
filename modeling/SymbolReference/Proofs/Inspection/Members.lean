import Mathlib.Data.List.ReduceOption
import SymbolReference.Inspection.Inspect
import SymbolReference.Proofs.Document.NameOrder
import SymbolReference.Proofs.Mapping
import SymbolReference.Proofs.Outcome

namespace SymbolReference

theorem ownAttribute?_eq_none_iff (attributes : List (String × Object)) (name : String) :
    ownAttribute? attributes name = none ↔ name ∉ attributes.map Prod.fst := by
  rw [ownAttribute?, lookup_eq_none_iff_notMem, List.map_reverse, List.mem_reverse]

theorem ownAttribute?_of_mem {attributes : List (String × Object)} {entry : String × Object}
    (hdistinct : (attributes.map Prod.fst).Nodup) (h : entry ∈ attributes) :
    ownAttribute? attributes entry.1 = some entry.2 := by
  cases hown : ownAttribute? attributes entry.1 with
  | none => exact absurd (List.mem_map_of_mem h) ((ownAttribute?_eq_none_iff _ _).mp hown)
  | some o =>
      have hsame : entry = (entry.1, o) :=
        List.inj_on_of_nodup_map hdistinct h (mem_of_lookup_reverse hown) rfl
      exact congrArg (fun entry : String × Object => some entry.2) hsame.symm

namespace ModuleObject

variable {m : ModuleObject}

theorem members_eq_ok_iff {members : List (String × Object)} :
    m.members = .ok members ↔ ∃ names found, m.names = .ok names ∧
      names.mapM m.memberNamed = .ok found ∧
        members = (Mapping.ofList found.reduceOption).toList := by
  simp only [ModuleObject.members, bind_eq_ok_iff, pure_eq_ok_iff, exists_and_left]

theorem found_of_members {members : List (String × Object)} (h : m.members = .ok members) :
    m.found = members := by
  rw [found, h]
  rfl

theorem memberNamed_eq_some_iff {listed : Value} {name : String} {o : Object} :
    m.memberNamed listed = .ok (some (name, o)) ↔
      listed.text? = some name ∧ m.member? name = .ok (some o) := by
  unfold memberNamed
  cases listed.text? with
  | none => simp
  | some text =>
      rw [Option.some.injEq]
      constructor
      · intro h
        cases hmember : m.member? text with
        | error e =>
            simp only [hmember] at h
            cases h
        | ok member =>
            simp only [hmember, Except.map, Except.ok.injEq, Option.map_eq_some_iff,
              Prod.mk.injEq] at h
            obtain ⟨o, rfl, rfl, rfl⟩ := h
            exact ⟨rfl, hmember⟩
      · rintro ⟨rfl, hmember⟩
        simp only [hmember]
        rfl

/-- A module that lists its attributes, all of which can be seen. -/
structure Plain (m : ModuleObject) : Prop where
  listing : m.listing = none
  distinct : (m.attributes.map Prod.fst).Nodup
  seen : ∀ name ∈ m.attributes.map Prod.fst, name ∉ typeAnswered

/-- The members of such a module are its attributes in the order of their names. -/
theorem Plain.members (h : m.Plain) :
    m.members = .ok (m.attributes.mergeSort (nameLe Prod.fst)) := by
  have hperm := List.mergeSort_perm m.attributes (nameLe Prod.fst)
  have hnames : m.names =
      .ok ((m.attributes.mergeSort (nameLe Prod.fst)).map fun entry => .str entry.1) := by
    have hsorted : (m.attributes.map Prod.fst).mergeSort (nameLe id) =
        (m.attributes.mergeSort (nameLe Prod.fst)).map Prod.fst :=
      (List.map_mergeSort (f := Prod.fst) fun _ _ _ _ => rfl).symm
    rw [names, h.listing, hsorted, List.map_map]
    rfl
  have hmember : ∀ entry ∈ m.attributes, m.memberNamed (.str entry.1) = .ok (some entry) := by
    intro entry hentry
    refine memberNamed_eq_some_iff.mpr ⟨rfl, ?_⟩
    have hseen : typeAnswered.contains entry.1 = false := by
      simpa using h.seen entry.1 (List.mem_map_of_mem hentry)
    rw [member?, ownAttribute?_of_mem h.distinct hentry]
    exact if_neg (by rw [hseen]; exact Bool.false_ne_true)
  refine members_eq_ok_iff.mpr ⟨_, (m.attributes.mergeSort (nameLe Prod.fst)).map some, hnames,
    ?_, ?_⟩
  · rw [List.mapM_map]
    refine (mapM_eq_ok_iff (p := fun _ => True) (fun entry hentry result => ?_) _).mpr
      ⟨fun _ _ => trivial, rfl⟩
    rw [Function.comp_apply, hmember entry (hperm.mem_iff.mp hentry)]
    simp [eq_comm]
  · have hreduced : ((m.attributes.mergeSort (nameLe Prod.fst)).map some).reduceOption =
        m.attributes.mergeSort (nameLe Prod.fst) := by
      simp [List.reduceOption, List.filterMap_map]
    rw [hreduced, Mapping.toList_ofList ((hperm.map Prod.fst).nodup_iff.mpr h.distinct)]

theorem Plain.mem_found_iff (h : m.Plain) {entry : String × Object} :
    entry ∈ m.found ↔ entry ∈ m.attributes := by
  rw [found_of_members h.members]
  exact List.mem_mergeSort

end ModuleObject

end SymbolReference

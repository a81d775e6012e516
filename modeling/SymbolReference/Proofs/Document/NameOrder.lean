import Mathlib.Data.List.Lex
import Mathlib.Data.List.Nodup
import SymbolReference.Document.Build

namespace SymbolReference

/-- A list of found members put in the order of their names: nothing is lost or added, the names do
not decrease by code points, and members of one name keep their order. -/
structure InNameOrder {α : Type} (name : α → String) (found ordered : List α) : Prop where
  perm : ordered.Perm found
  sorted : ordered.Pairwise fun a b => codePoints (name a) ≤ codePoints (name b)
  stable : ∀ n, ordered.filter (fun a => name a = n) = found.filter (fun a => name a = n)

theorem codeOfChar_injective : Function.Injective Text.codeOfChar := by
  intro c d h
  -- Halves of pairs are no characters, so no character is what another one stands in for.
  have hvalid : ∀ c : Char, c.toNat < 0xD800 ∨ 0xDFFF < c.toNat := by
    intro c
    have hchar := c.valid
    simp only [UInt32.isValidChar, Nat.isValidChar] at hchar
    change c.val.toNat < 0xD800 ∨ 0xDFFF < c.val.toNat
    omega
  have hc := hvalid c
  have hd := hvalid d
  have hnat : c.toNat = d.toNat := by
    unfold Text.codeOfChar Text.isHalf Text.standInDistance at h
    simp only [Bool.and_eq_true, decide_eq_true_eq] at h
    split_ifs at h
    all_goals omega
  exact Char.ext (UInt32.toNat_inj.mp hnat)

theorem codePoints_injective : Function.Injective codePoints := fun _ _ h =>
  String.toList_inj.mp (List.map_injective_iff.mpr codeOfChar_injective h)

namespace InNameOrder

variable {α : Type} {name : α → String} {found a b : List α}

theorem name_head_eq {x y : α} {xs ys : List α} (hx : InNameOrder name found (x :: xs))
    (hy : InNameOrder name found (y :: ys)) : name x = name y := by
  have hle : ∀ {x y : α} {xs ys : List α}, InNameOrder name found (x :: xs) →
      InNameOrder name found (y :: ys) → codePoints (name x) ≤ codePoints (name y) := by
    intro x y xs ys hx hy
    have hmem : y ∈ x :: xs := (hy.perm.trans hx.perm.symm).mem_iff.mp (by simp)
    rcases List.mem_cons.mp hmem with rfl | hmem
    · exact le_refl _
    · exact (List.pairwise_cons.mp hx.sorted).1 y hmem
  exact codePoints_injective (le_antisymm (hle hx hy) (hle hy hx))

/-- A list has only one order by names. -/
theorem unique (ha : InNameOrder name found a) (hb : InNameOrder name found b) : a = b := by
  induction a generalizing b found with
  | nil => exact ((hb.perm.trans ha.perm.symm).eq_nil).symm
  | cons x xs ih =>
      rcases b with _ | ⟨y, ys⟩
      · exact absurd (ha.perm.trans hb.perm.symm).eq_nil (by simp)
      · have hname : name y = name x := name_head_eq hb ha
        have hfilter : ∀ n, (x :: xs).filter (fun a => name a = n) =
            (y :: ys).filter (fun a => name a = n) := fun n => (ha.stable n).trans (hb.stable n).symm
        have hxy : x = y := by
          have h := hfilter (name x)
          simp only [List.filter_cons, hname, decide_true, if_true] at h
          exact (List.cons.inj h).1
        subst hxy
        -- What follows the common head is an order of the same rest.
        have hxs : InNameOrder name xs xs :=
          ⟨List.Perm.refl _, (List.pairwise_cons.mp ha.sorted).2, fun _ => rfl⟩
        have hys : InNameOrder name xs ys := by
          refine ⟨?_, (List.pairwise_cons.mp hb.sorted).2, fun n => ?_⟩
          · exact (hb.perm.trans ha.perm.symm).cons_inv
          · have h := hfilter n
            by_cases hn : name x = n
            · simp only [List.filter_cons, hn, decide_true, if_true] at h
              exact (List.cons.inj h).2.symm
            · simp only [List.filter_cons, hn, decide_false, Bool.false_eq_true, if_false] at h
              exact h.symm
        rw [ih hxs hys]

theorem eq_iff (ha : InNameOrder name found a) (b : List α) :
    b = a ↔ InNameOrder name found b := by
  constructor
  · rintro rfl
    exact ha
  · intro hb
    exact hb.unique ha

end InNameOrder

/-- Two lists have the same members, and those of one name in the same order. -/
structure NamedAlike {α : Type} (name : α → String) (a b : List α) : Prop where
  perm : a.Perm b
  stable : ∀ n, a.filter (fun x => name x = n) = b.filter (fun x => name x = n)

namespace NamedAlike

variable {α β : Type} {name : α → String} {a b c d : List α}

theorem refl (a : List α) : NamedAlike name a a :=
  ⟨List.Perm.refl a, fun _ => rfl⟩

theorem append (hab : NamedAlike name a b) (hcd : NamedAlike name c d) :
    NamedAlike name (a ++ c) (b ++ d) where
  perm := hab.perm.append hcd.perm
  stable n := by rw [List.filter_append, List.filter_append, hab.stable, hcd.stable]

theorem map {f : α → β} {nameOf : β → String} (hname : ∀ x, nameOf (f x) = name x)
    (h : NamedAlike name a b) : NamedAlike nameOf (a.map f) (b.map f) where
  perm := h.perm.map f
  stable n := by
    have hcomp : (fun y => decide (nameOf y = n)) ∘ f = fun x => decide (name x = n) := by
      funext x
      exact congrArg (fun m => decide (m = n)) (hname x)
    rw [List.filter_map, List.filter_map, hcomp, h.stable]

/-- Where names are distinct, members of one name have no order to keep. -/
theorem of_nodup (hperm : a.Perm b) (hnodup : (a.map name).Nodup) : NamedAlike name a b where
  perm := hperm
  stable n := by
    have heq : ∀ x y, x ∈ a.filter (fun x => name x = n) → y ∈ b.filter (fun x => name x = n) →
        True → True → x = y := by
      intro x y hx hy _ _
      rw [List.mem_filter, decide_eq_true_eq] at hx hy
      exact List.inj_on_of_nodup_map hnodup hx.1 (hperm.mem_iff.mpr hy.1) (hx.2.trans hy.2.symm)
    exact List.Perm.eq_of_pairwise heq (List.pairwise_of_forall fun _ _ => trivial)
      (List.pairwise_of_forall fun _ _ => trivial) (hperm.filter _)

/-- Groups that share no names may be put together in any order. -/
theorem flatMap {f : β → List α} {groups others : List β} (hperm : groups.Perm others)
    (hapart : groups.Pairwise fun x y => ((f x).map name).Disjoint ((f y).map name)) :
    NamedAlike name (groups.flatMap f) (others.flatMap f) where
  perm := hperm.flatMap_right f
  stable n := by
    induction hperm with
    | nil => rfl
    | cons x _ ih =>
        rw [List.flatMap_cons, List.flatMap_cons, List.filter_append, List.filter_append,
          ih (List.pairwise_cons.mp hapart).2]
    | swap x y rest =>
        -- The name occurs in one of the two groups at most.
        have hnone : (f x).filter (fun z => name z = n) = [] ∨
            (f y).filter (fun z => name z = n) = [] := by
          by_contra hboth
          rw [not_or, List.filter_eq_nil_iff, List.filter_eq_nil_iff] at hboth
          obtain ⟨hx, hy⟩ := hboth
          simp only [decide_eq_true_eq, not_forall, not_not] at hx hy
          obtain ⟨u, hu, hun⟩ := hx
          obtain ⟨v, hv, hvn⟩ := hy
          have hdisjoint := (List.pairwise_cons.mp hapart).1 x List.mem_cons_self
          exact hdisjoint (List.mem_map_of_mem hv) (List.mem_map.mpr ⟨u, hu, hun.trans hvn.symm⟩)
        simp only [List.flatMap_cons, List.filter_append]
        rcases hnone with hnone | hnone
        · rw [hnone, List.nil_append, List.nil_append]
        · rw [hnone, List.nil_append, List.nil_append]
    | trans hfirst _ ihfirst ihsecond =>
        have hsymm : ∀ {x y : β}, ((f x).map name).Disjoint ((f y).map name) →
            ((f y).map name).Disjoint ((f x).map name) := fun h _ hy hx => h hx hy
        rw [ihfirst hapart, ihsecond ((hfirst.pairwise_iff hsymm).mp hapart)]

end NamedAlike

section Sorting

variable {α : Type} (name : α → String)

theorem nameLe_iff (a b : α) :
    nameLe name a b = true ↔ codePoints (name a) ≤ codePoints (name b) := by
  simp [nameLe]

theorem nameLe_trans (a b c : α) (hab : nameLe name a b = true) (hbc : nameLe name b c = true) :
    nameLe name a c = true := by
  rw [nameLe_iff] at hab hbc ⊢
  exact hab.trans hbc

theorem nameLe_total (a b : α) : (nameLe name a b || nameLe name b a) = true := by
  rw [Bool.or_eq_true, nameLe_iff, nameLe_iff]
  exact le_total _ _

theorem filter_mergeSort (found : List α) (n : String) :
    (found.mergeSort (nameLe name)).filter (fun a => name a = n) =
      found.filter (fun a => name a = n) := by
  -- They are a sorted part of the list, and sorting keeps sorted parts.
  have hsorted : (found.filter fun a => name a = n).Pairwise fun a b => nameLe name a b = true := by
    refine List.pairwise_of_forall_mem_list fun a ha b hb => ?_
    have hab : name a = name b := by
      rw [of_decide_eq_true (List.mem_filter.mp ha).2, of_decide_eq_true (List.mem_filter.mp hb).2]
    simp [nameLe, hab]
  have hsub : (found.filter fun a => name a = n).Sublist (found.mergeSort (nameLe name)) :=
    List.sublist_mergeSort (nameLe_trans name) (nameLe_total name) hsorted List.filter_sublist
  have hfilter : (found.filter fun a => name a = n).Sublist
      ((found.mergeSort (nameLe name)).filter fun a => name a = n) := by
    simpa using hsub.filter fun a => name a = n
  have hlength := ((List.mergeSort_perm found (nameLe name)).filter fun a => name a = n).length_eq
  exact (hfilter.eq_of_length hlength.symm).symm

theorem inNameOrder_mergeSort (found : List α) :
    InNameOrder name found (found.mergeSort (nameLe name)) where
  perm := List.mergeSort_perm found (nameLe name)
  sorted :=
    (List.pairwise_mergeSort (nameLe_trans name) (nameLe_total name) found).imp
      (nameLe_iff name _ _).mp
  stable := filter_mergeSort name found

theorem NamedAlike.mergeSort_eq {found other : List α} (h : NamedAlike name found other) :
    found.mergeSort (nameLe name) = other.mergeSort (nameLe name) := by
  have hfound := inNameOrder_mergeSort name found
  have hother : InNameOrder name other (found.mergeSort (nameLe name)) :=
    ⟨hfound.perm.trans h.perm, hfound.sorted, fun n => (hfound.stable n).trans (h.stable n)⟩
  exact hother.unique (inNameOrder_mergeSort name other)

/-- A member that comes first is put before the others of its name and after the smaller ones. -/
theorem mergeSort_cons_eq (a : α) (found : List α) :
    (a :: found).mergeSort (nameLe name) =
      (found.mergeSort (nameLe name)).filter (fun b => !nameLe name a b) ++
        a :: (found.mergeSort (nameLe name)).filter (nameLe name a) := by
  obtain ⟨before, after, hcons, hfound, hbefore⟩ :=
    List.mergeSort_cons (nameLe_trans name) (nameLe_total name) a found
  have hsorted := List.pairwise_mergeSort (nameLe_trans name) (nameLe_total name) (a :: found)
  rw [hcons, List.pairwise_append, List.pairwise_cons] at hsorted
  obtain ⟨-, ⟨hafter, -⟩, -⟩ := hsorted
  have hkept : before.filter (nameLe name a) = [] :=
    List.filter_eq_nil_iff.mpr fun b hb => by simpa using hbefore b hb
  have hdropped : after.filter (fun b => !nameLe name a b) = [] :=
    List.filter_eq_nil_iff.mpr fun b hb => by simpa using hafter b hb
  rw [hcons, hfound, List.filter_append, List.filter_append, hkept, hdropped,
    List.filter_eq_self.mpr hbefore, List.filter_eq_self.mpr hafter, List.append_nil,
    List.nil_append]

theorem mergeSort_sublist_mergeSort {part found : List α} (h : part.Sublist found) :
    (part.mergeSort (nameLe name)).Sublist (found.mergeSort (nameLe name)) := by
  induction h with
  | slnil => exact List.Sublist.refl _
  | cons a _ ih =>
      obtain ⟨before, after, hcons, hfound, -⟩ :=
        List.mergeSort_cons (nameLe_trans name) (nameLe_total name) a _
      rw [hcons]
      rw [hfound] at ih
      exact ih.trans ((List.sublist_cons_self a after).append_left before)
  | cons_cons a _ ih =>
      rw [mergeSort_cons_eq, mergeSort_cons_eq]
      exact (ih.filter _).append ((ih.filter _).cons_cons a)

end Sorting

/-- Models in the order of their names, each put in its place after those behind it. -/
def placedByName : List Model → List Model
  | [] => []
  | m :: others =>
    (placedByName others).filter (fun other => !nameLe Model.name m other) ++
      m :: (placedByName others).filter (nameLe Model.name m)

/-- Sorting one model after the other can be evaluated by structural recursion. -/
theorem sortedByName_eq_placedByName : sortedByName = placedByName := by
  funext models
  induction models with
  | nil => exact List.mergeSort_nil
  | cons m others ih =>
      rw [placedByName, ← ih]
      exact mergeSort_cons_eq Model.name m others

theorem sortedByName_eq_of_namedAlike {models others : List Model}
    (h : NamedAlike Model.name models others) : sortedByName models = sortedByName others :=
  h.mergeSort_eq

theorem inNameOrder_sortedByName (models : List Model) :
    InNameOrder Symbol.name (models.map Model.symbol)
      ((sortedByName models).map Model.symbol) := by
  have hmap : (sortedByName models).map Model.symbol =
      (models.map Model.symbol).mergeSort (nameLe Symbol.name) :=
    List.map_mergeSort fun _ _ _ _ => rfl
  rw [hmap]
  exact inNameOrder_mergeSort Symbol.name (models.map Model.symbol)

end SymbolReference

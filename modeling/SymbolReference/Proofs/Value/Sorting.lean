import SymbolReference.Proofs.Outcome
import SymbolReference.Value.Sorting

namespace SymbolReference

variable {α ε : Type} {less : α → α → Except ε Bool}

/-- Neither way of comparing two elements fails. -/
def Comparable (less : α → α → Except ε Bool) (a b : α) : Prop :=
  (∃ result, less a b = .ok result) ∧ ∃ result, less b a = .ok result

theorem Comparable.symm {a b : α} (h : Comparable less a b) : Comparable less b a :=
  ⟨h.2, h.1⟩

theorem pairwise_comparable_of_perm {xs ys : List α} (hperm : xs.Perm ys)
    (h : xs.Pairwise (Comparable less)) : ys.Pairwise (Comparable less) :=
  h.perm hperm Comparable.symm

theorem exists_takeRun (falls : Bool) {last : α} (run : List α) {xs : List α}
    (h : (last :: xs).Pairwise (Comparable less)) :
    ∃ found, takeRun less falls last run xs = .ok found ∧
      (found.1 ++ found.2).Perm (last :: run ++ xs) := by
  induction xs generalizing last run with
  | nil => exact ⟨(last :: run, []), rfl, List.Perm.refl _⟩
  | cons x others ih =>
      obtain ⟨hlast, hrest⟩ := List.pairwise_cons.mp h
      obtain ⟨result, hresult⟩ := (hlast x List.mem_cons_self).2
      rw [takeRun, hresult]
      by_cases hfalls : result = falls
      · obtain ⟨found, hfound, hperm⟩ := ih (last :: run) hrest
        have hmiddle : (last :: run ++ x :: others).Perm (x :: (last :: run ++ others)) :=
          List.perm_middle
        exact ⟨found, (if_pos hfalls).trans hfound, hperm.trans hmiddle.symm⟩
      · exact ⟨(last :: run, x :: others), if_neg hfalls, List.Perm.refl _⟩

theorem exists_insertByHalves {x : α} {placed : List α}
    (h : ∀ y ∈ placed, Comparable less x y) :
    ∃ found, insertByHalves less x placed = .ok found ∧ found.Perm (x :: placed) := by
  induction hlength : placed.length using Nat.strongRecOn generalizing placed with
  | ind n ih =>
      rw [insertByHalves]
      split
      · rename_i hhalf
        have hempty : placed = [] := by
          rw [List.drop_eq_nil_iff] at hhalf
          exact List.length_eq_zero_iff.mp (by omega)
        exact ⟨[x], rfl, by rw [hempty]⟩
      · rename_i middle after hhalf
        have hplaced : placed = placed.take (placed.length / 2) ++ middle :: after := by
          rw [← hhalf, List.take_append_drop]
        generalize placed.take (placed.length / 2) = before at *
        subst hplaced
        rw [List.length_append, List.length_cons] at hlength
        simp only [List.forall_mem_append, List.forall_mem_cons] at h
        obtain ⟨hbefore, ⟨⟨result, hresult⟩, -⟩, hafter⟩ := h
        rw [hresult]
        cases result with
        | true =>
            obtain ⟨found, hfound, hperm⟩ := ih before.length (by omega) hbefore rfl
            refine ⟨found ++ middle :: after, ?_, hperm.append_right _⟩
            change (insertByHalves less x before >>= fun found => _) = _
            rw [hfound]
            rfl
        | false =>
            obtain ⟨found, hfound, hperm⟩ := ih after.length (by omega) hafter rfl
            refine ⟨before ++ middle :: found, ?_, ?_⟩
            · change (insertByHalves less x after >>= fun found => _) = _
              rw [hfound]
              rfl
            · refine ((hperm.cons middle).append_left before).trans ?_
              refine ((List.Perm.swap x middle after).append_left before).trans ?_
              exact List.perm_middle

theorem exists_foldlM_insertByHalves {placed xs : List α}
    (h : (placed ++ xs).Pairwise (Comparable less)) :
    ∃ found, xs.foldlM (fun placed x => insertByHalves less x placed) placed = .ok found ∧
      found.Perm (placed ++ xs) := by
  induction xs generalizing placed with
  | nil => exact ⟨placed, rfl, by rw [List.append_nil]⟩
  | cons x others ih =>
      have hmiddle : (placed ++ x :: others).Perm (x :: (placed ++ others)) := List.perm_middle
      have hfirst := pairwise_comparable_of_perm hmiddle h
      obtain ⟨next, hnext, hperm⟩ := exists_insertByHalves fun y hy =>
        (List.pairwise_cons.mp hfirst).1 y (List.mem_append_left _ hy)
      have happend : (next ++ others).Perm (x :: (placed ++ others)) := hperm.append_right others
      obtain ⟨found, hfound, hfinal⟩ := ih (pairwise_comparable_of_perm happend.symm hfirst)
      refine ⟨found, ?_, hfinal.trans (happend.trans hmiddle.symm)⟩
      rw [List.foldlM_cons, hnext]
      exact hfound

/-- Elements of which any two can be compared are sorted. -/
theorem exists_sortBy {xs : List α} (h : xs.Pairwise (Comparable less)) :
    ∃ found, sortBy less xs = .ok found ∧ found.Perm xs := by
  match xs, h with
  | [], _ => exact ⟨[], rfl, List.Perm.refl _⟩
  | [x], _ => exact ⟨[x], rfl, List.Perm.refl _⟩
  | x :: y :: others, h =>
      obtain ⟨hx, hrest⟩ := List.pairwise_cons.mp h
      obtain ⟨falls, hfalls⟩ := (hx y List.mem_cons_self).2
      obtain ⟨⟨run, rest⟩, hrun, hperm⟩ := exists_takeRun falls [x] hrest
      have hswap : (run ++ rest).Perm (x :: y :: others) :=
        hperm.trans (List.Perm.swap x y others)
      have hplaced : ((if falls then run else run.reverse) ++ rest).Perm (x :: y :: others) := by
        cases falls with
        | true => exact hswap
        | false => exact (run.reverse_perm.append_right rest).trans hswap
      obtain ⟨found, hfound, hfinal⟩ :=
        exists_foldlM_insertByHalves (pairwise_comparable_of_perm hplaced.symm h)
      refine ⟨found, ?_, hfinal.trans hplaced⟩
      rw [sortBy, hfalls]
      change (takeRun less falls y [x] others >>= fun found => _) = _
      rw [hrun]
      exact hfound

end SymbolReference

import Mathlib.Data.List.Chain
import SymbolReference.Proofs.Outcome
import SymbolReference.Proofs.Text.Fields
import SymbolReference.Terminal.Part

/-!
A text is cut by its clusters, and a cut fails when they take fewer cells than the text. This happens
to no text without two joiners side by side, and the lines and the parts that such a text is broken
into are texts of this kind again.
-/

namespace SymbolReference.Terminal

/-- Whether no two joiners stand side by side in a text. -/
def JoinersApart (s : List Char) : Prop :=
  s.IsChain fun c d => ¬ (c = joiner ∧ d = joiner)

theorem JoinersApart.of_part {s t : List Char} (h : JoinersApart s) (ht : t <:+: s) :
    JoinersApart t :=
  List.IsChain.infix h ht

theorem joinersApart_append {s t : List Char} (hs : JoinersApart s) (ht : JoinersApart t)
    (hedge : s.getLast? ≠ some joiner ∨ t.head? ≠ some joiner) : JoinersApart (s ++ t) := by
  refine List.isChain_append.mpr ⟨hs, ht, ?_⟩
  rintro c hc d hd ⟨rfl, rfl⟩
  rcases hedge with hlast | hhead
  · exact hlast hc
  · exact hhead hd

theorem joinersApart_of_notMem {s : List Char} (h : joiner ∉ s) : JoinersApart s := by
  induction s with
  | nil => exact .nil
  | cons c s ih =>
      rw [List.mem_cons, not_or] at h
      exact List.isChain_cons.mpr ⟨fun d _ hpair => h.1 hpair.1.symm, ih h.2⟩

theorem charCells_eq_zero {c : Char} {i : Nat} (hplain : ¬ (32 ≤ c.toNat ∧ c.toNat < 127))
    (h : i < emptyRanges.size) (hc : emptyRanges[i].1 ≤ c.toNat ∧ c.toNat ≤ emptyRanges[i].2) :
    charCells c = 0 := by
  have hempty : Text.inRanges emptyRanges c.toNat = true := by
    rw [Text.inRanges, Array.any_eq_true]
    exact ⟨i, h, by simpa using hc⟩
  unfold charCells
  rw [if_neg (by simpa using hplain), if_pos hempty]

theorem charCells_joiner : charCells joiner = 0 :=
  charCells_eq_zero (i := 154) (by decide) (by decide +kernel) (by decide +kernel)

theorem charCells_colourSelector : charCells colourSelector = 0 :=
  charCells_eq_zero (i := 197) (by decide) (by decide +kernel) (by decide +kernel)

theorem joiner_ne_colourSelector : joiner ≠ colourSelector := by
  decide

theorem cellsAfter_joiner (before : Option Char) (d : Char) (rest : List Char) :
    cellsAfter before (joiner :: d :: rest) = cellsAfter before rest := by
  rw [cellsAfter.eq_def]
  exact if_pos rfl

theorem cellsAfter_colourSelector (before : Option Char) (rest : List Char) :
    cellsAfter before (colourSelector :: rest) =
      (if before.any isColourable then 1 else 0) + cellsAfter none rest := by
  rw [cellsAfter.eq_def]
  exact (if_neg joiner_ne_colourSelector.symm).trans (if_pos rfl)

theorem cellsAfter_cons {c : Char} (hjoiner : c ≠ joiner) (hselector : c ≠ colourSelector)
    (before : Option Char) (rest : List Char) :
    cellsAfter before (c :: rest) =
      if charCells c = 0 then cellsAfter before rest
      else charCells c + cellsAfter (some c) rest := by
  rw [cellsAfter.eq_def]
  exact (if_neg hjoiner).trans (if_neg hselector)

/-- What stands before a text matters only as far as it can be coloured. -/
theorem cellsAfter_mono {before other : Option Char}
    (h : before.any isColourable = true → other.any isColourable = true) (s : List Char) :
    cellsAfter before s ≤ cellsAfter other s := by
  induction before, s using cellsAfter.induct generalizing other with
  | case1 => exact Nat.le_refl _
  | case2 => exact Nat.le_refl _
  | case3 before d rest ih =>
      rw [cellsAfter_joiner, cellsAfter_joiner]
      exact ih h
  | case4 before rest =>
      rw [cellsAfter_colourSelector, cellsAfter_colourSelector]
      split
      · rename_i hbefore
        rw [if_pos (h hbefore)]
      · omega
  | case5 before c rest hjoiner hselector hcells ih =>
      rw [cellsAfter_cons hjoiner hselector, cellsAfter_cons hjoiner hselector, if_pos hcells,
        if_pos hcells]
      exact ih h
  | case6 before c rest hjoiner hselector hcells =>
      rw [cellsAfter_cons hjoiner hselector, cellsAfter_cons hjoiner hselector, if_neg hcells,
        if_neg hcells]

theorem cellsAfter_eq_none {before : Option Char} (h : ¬ before.any isColourable = true)
    (s : List Char) : cellsAfter before s = cellsAfter none s :=
  Nat.le_antisymm (cellsAfter_mono (fun hbefore => absurd hbefore h) s)
    (cellsAfter_mono (fun hnone => by cases hnone) s)

theorem cellsAfter_le_cons {c : Char} (h : c ≠ joiner) (rest : List Char) :
    cellsAfter none rest ≤ cellsAfter none (c :: rest) := by
  by_cases hselector : c = colourSelector
  · rw [hselector, cellsAfter_colourSelector]
    exact Nat.le_add_left _ _
  · rw [cellsAfter_cons h hselector]
    split
    · exact Nat.le_refl _
    · have hmono : cellsAfter none rest ≤ cellsAfter (some c) rest :=
        cellsAfter_mono (fun hnone => by cases hnone) rest
      omega

theorem clusterCells_append (ks others : List Cluster) :
    clusterCells (ks ++ others) = clusterCells ks + clusterCells others := by
  induction ks with
  | nil => simp [clusterCells]
  | cons k ks ih => simp only [List.cons_append, clusterCells, ih, Nat.add_assoc]

theorem clusterCells_reverse (ks : List Cluster) : clusterCells ks.reverse = clusterCells ks := by
  induction ks with
  | nil => rfl
  | cons k ks ih =>
      rw [List.reverse_cons, clusterCells_append, ih]
      simp only [clusterCells]
      omega

theorem clusterCells_map_finish (ks : List Cluster) :
    clusterCells (ks.map Cluster.finish) = clusterCells ks := by
  induction ks with
  | nil => rfl
  | cons k ks ih =>
      rw [List.map_cons, clusterCells, clusterCells, ih]
      rfl

section Steps

variable {before : Option Char} {last : Cluster} {built : List Cluster} {c : Char}

theorem clustersFrom_joiner (d : Char) (rest : List Char) :
    clustersFrom before (last :: built) (joiner :: d :: rest) =
      clustersFrom before ((last.push joiner).push d :: built) rest := by
  rw [clustersFrom.eq_def]
  exact if_pos rfl

theorem clustersFrom_coloured (hjoiner : c ≠ joiner)
    (hcoloured : (c = colourSelector && before.any isColourable) = true) (rest : List Char) :
    clustersFrom before (last :: built) (c :: rest) =
      clustersFrom none (last.push c 1 :: built) rest := by
  rw [clustersFrom.eq_def]
  exact (if_neg hjoiner).trans (if_pos hcoloured)

theorem clustersFrom_drawn (hjoiner : c ≠ joiner)
    (hcoloured : ¬(c = colourSelector && before.any isColourable) = true)
    (hcells : charCells c = 0) (rest : List Char) :
    clustersFrom before (last :: built) (c :: rest) =
      clustersFrom before (last.push c :: built) rest := by
  rw [clustersFrom.eq_def]
  exact (if_neg hjoiner).trans ((if_neg hcoloured).trans (if_pos hcells))

theorem clustersFrom_begun (hjoiner : c ≠ joiner)
    (hcoloured : ¬(c = colourSelector && before.any isColourable) = true)
    (hcells : ¬charCells c = 0) (rest : List Char) :
    clustersFrom before (last :: built) (c :: rest) =
      clustersFrom (some c) (⟨[c], charCells c⟩ :: last :: built) rest := by
  rw [clustersFrom.eq_def]
  exact (if_neg hjoiner).trans ((if_neg hcoloured).trans (if_neg hcells))

end Steps

/-- Once a cluster is begun, the clusters take as many cells as the text. -/
theorem clusterCells_clustersFrom (before : Option Char) (ks : List Cluster) (s : List Char)
    (h : ks ≠ []) :
    clusterCells (clustersFrom before ks s) = clusterCells ks + cellsAfter before s := by
  induction before, ks, s using clustersFrom.induct with
  | case1 before ks =>
      rw [clustersFrom, clusterCells_reverse]
      rfl
  | case2 => exact absurd rfl h
  | case3 before last built =>
      rw [clustersFrom.eq_def]
      simp only [if_true, clusterCells_reverse]
      rfl
  | case4 before last built d rest ih =>
      rw [cellsAfter_joiner, clustersFrom_joiner, ih (List.cons_ne_nil _ _)]
      rfl
  | case5 before last built c rest hjoiner hcoloured ih =>
      rw [clustersFrom_coloured hjoiner hcoloured, ih (List.cons_ne_nil _ _)]
      rw [Bool.and_eq_true, decide_eq_true_eq] at hcoloured
      obtain ⟨rfl, hbefore⟩ := hcoloured
      rw [cellsAfter_colourSelector, if_pos hbefore]
      simp only [clusterCells, Cluster.push]
      omega
  | case6 before last built c rest hjoiner hcoloured hcells ih =>
      have hpush : clusterCells (last.push c :: built) = clusterCells (last :: built) := rfl
      rw [clustersFrom_drawn hjoiner hcoloured hcells, ih (List.cons_ne_nil _ _), hpush]
      -- A selector that has nothing to colour takes no cell and ends what could be coloured.
      by_cases hselector : c = colourSelector
      · subst hselector
        have hbefore : ¬ before.any isColourable = true := by simpa using hcoloured
        rw [cellsAfter_colourSelector, if_neg hbefore, cellsAfter_eq_none hbefore, Nat.zero_add]
      · rw [cellsAfter_cons hjoiner hselector, if_pos hcells]
  | case7 before last built c rest hjoiner hcoloured hcells ih =>
      have hselector : c ≠ colourSelector := by
        rintro rfl
        exact hcells charCells_colourSelector
      rw [clustersFrom_begun hjoiner hcoloured hcells, ih (List.cons_ne_nil _ _),
        cellsAfter_cons hjoiner hselector, if_neg hcells]
      simp only [clusterCells]
      omega

/-- Only joiners at its front can make a text take more cells than its clusters. -/
theorem cells_le_clusterCells {s : List Char} (h : JoinersApart s) :
    cells s ≤ clusterCells (clusters s) := by
  rcases s with _ | ⟨c, rest⟩
  · exact Nat.le_refl _
  · have hfirst : clusterCells (clusters (c :: rest)) =
        charCells c + cellsAfter (if charCells c = 0 then none else some c) rest := by
      rw [clusters, clusterCells_map_finish, clustersFrom.eq_def]
      simp only [clusterCells_clustersFrom _ _ _ (List.cons_ne_nil _ _), clusterCells,
        Nat.add_zero]
    rw [hfirst, cells]
    by_cases hselector : c = colourSelector
    · subst hselector
      rw [cellsAfter_colourSelector, if_pos charCells_colourSelector, charCells_colourSelector]
      exact Nat.le_refl _
    · by_cases hjoiner : c = joiner
      · -- In the text the joiner hides the character after it; the clusters begin with it.
        subst hjoiner
        rw [if_pos charCells_joiner, charCells_joiner, Nat.zero_add]
        rcases rest with _ | ⟨d, rest⟩
        · exact Nat.le_refl _
        · have hd : d ≠ joiner := fun hd => (List.isChain_cons_cons.mp h).1 ⟨rfl, hd⟩
          rw [cellsAfter_joiner]
          exact cellsAfter_le_cons hd rest
      · rw [cellsAfter_cons hjoiner hselector]
        by_cases hcells : charCells c = 0
        · rw [if_pos hcells, if_pos hcells, hcells, Nat.zero_add]
        · rw [if_neg hcells, if_neg hcells]

theorem flatMap_chars_clustersFrom (before : Option Char) (ks : List Cluster) (s : List Char) :
    (clustersFrom before ks s).flatMap (fun k => k.chars.reverse) =
      ks.reverse.flatMap (fun k => k.chars.reverse) ++ s := by
  induction before, ks, s using clustersFrom.induct with
  | case1 => simp [clustersFrom]
  | case2 before c rest ih =>
      rw [clustersFrom.eq_def]
      simp only
      rw [ih]
      simp
  | case3 before last built =>
      rw [clustersFrom.eq_def]
      simp [Cluster.push]
  | case4 before last built d rest ih =>
      rw [clustersFrom_joiner, ih]
      simp [Cluster.push]
  | case5 before last built c rest hjoiner hcoloured ih =>
      rw [clustersFrom_coloured hjoiner hcoloured, ih]
      simp [Cluster.push]
  | case6 before last built c rest hjoiner hcoloured hcells ih =>
      rw [clustersFrom_drawn hjoiner hcoloured hcells, ih]
      simp [Cluster.push]
  | case7 before last built c rest hjoiner hcoloured hcells ih =>
      rw [clustersFrom_begun hjoiner hcoloured hcells, ih]
      simp

theorem flatMap_chars_clusters (s : List Char) : (clusters s).flatMap Cluster.chars = s := by
  rw [clusters, List.flatMap_map]
  exact flatMap_chars_clustersFrom none [] s

theorem fitting?_shape (width : Nat) {ks : List Cluster} {cut : List Char}
    (h : fitting? width ks = some cut) :
    ∃ start, start <+: ks.flatMap Cluster.chars ∧ (cut = start ∨ cut = start ++ [' ']) := by
  induction ks generalizing width cut with
  | nil =>
      rcases width with _ | width
      · rw [fitting?] at h
        exact ⟨[], List.nil_prefix, Or.inl (Option.some.inj h).symm⟩
      · cases h
  | cons k ks ih =>
      rcases width with _ | width
      · rw [fitting?] at h
        exact ⟨[], List.nil_prefix, Or.inl (Option.some.inj h).symm⟩
      · rw [fitting?] at h
        split at h
        · obtain ⟨rest, hrest, rfl⟩ := Option.map_eq_some_iff.mp h
          obtain ⟨start, hstart, hcut⟩ := ih _ hrest
          refine ⟨k.chars ++ start, ?_, ?_⟩
          · rw [List.flatMap_cons]
            exact (List.prefix_append_right_inj _).mpr hstart
          · rcases hcut with rfl | rfl
            · exact Or.inl rfl
            · exact Or.inr (List.append_assoc ..).symm
        · exact ⟨[], List.nil_prefix, Or.inr (Option.some.inj h).symm⟩
        · exact Nat.succ_ne_zero _

theorem JoinersApart.append_space {s : List Char} (h : JoinersApart s) :
    JoinersApart (s ++ [' ']) :=
  joinersApart_append h (joinersApart_of_notMem (by decide)) (Or.inr (by decide))

/-- A text without joiners side by side can be cut, and what is left is of this kind again. -/
theorem exists_crop {s : List Char} (h : JoinersApart s) (width : Nat) :
    ∃ cut, crop width s = .ok cut ∧ JoinersApart cut := by
  unfold crop
  split
  · exact ⟨[], rfl, .nil⟩
  · split
    · exact ⟨s, rfl, h⟩
    · rename_i hwidth hlong
      have hcells := cells_le_clusterCells h
      have hsome : clusterCells (clusters s) ≠ 0 := by omega
      have henough : width ≤ clusterCells (clusters s) := by omega
      obtain ⟨cut, hcut⟩ := Option.isSome_iff_exists.mp (isSome_fitting? henough)
      obtain ⟨start, hstart, hshape⟩ := fitting?_shape width hcut
      rw [flatMap_chars_clusters] at hstart
      simp only [if_neg hsome, hcut]
      refine ⟨cut, rfl, ?_⟩
      rcases hshape with rfl | rfl
      · exact h.of_part hstart.isInfix
      · exact (h.of_part hstart.isInfix).append_space

theorem exists_truncate {s : List Char} (h : JoinersApart s) (width : Nat) :
    ∃ cut, truncate width .fold s = .ok cut ∧ JoinersApart cut := by
  unfold truncate
  split
  · exact ⟨s, rfl, h⟩
  · exact exists_crop h width

theorem exists_cropParts {parts : List (List Char)} (h : ∀ part ∈ parts, JoinersApart part)
    (width : Nat) : ∃ cut, cropParts width parts = .ok cut := by
  induction parts generalizing width with
  | nil => exact ⟨[], rfl⟩
  | cons part parts ih =>
      rw [List.forall_mem_cons] at h
      rw [cropParts]
      split
      · obtain ⟨cut, hcut⟩ := ih h.2 (width - cells part)
        rw [hcut]
        exact ⟨_, rfl⟩
      · obtain ⟨cut, hcut, -⟩ := exists_crop h.1 width
        rw [hcut]
        exact ⟨_, rfl⟩

theorem exists_fitParts {parts : List (List Char)} (h : ∀ part ∈ parts, JoinersApart part)
    (width : Nat) : ∃ cut, fitParts width parts = .ok cut := by
  unfold fitParts
  split
  · exact ⟨parts, rfl⟩
  · exact exists_cropParts h width

theorem flatten_pieces (s : List Char) : (pieces s).flatten = s := by
  induction s with
  | nil => rfl
  | cons c s ih =>
      rw [pieces]
      split
      · rename_i hpieces
        rw [hpieces] at ih
        rw [← ih]
        rfl
      · rename_i piece others hpieces
        rw [hpieces] at ih
        split
        · rw [← ih]
          rfl
        · rw [← ih]
          rfl

theorem flatten_spacedWords {s : List Char} (h : spacedWords s ≠ []) :
    (spacedWords s).flatten = s := by
  have hpieces := flatten_pieces s
  unfold spacedWords at h ⊢
  split at h
  · exact absurd rfl h
  · rename_i first others hfound
    rw [hfound] at hpieces
    split at h
    · split at h
      · exact absurd rfl h
      · rename_i hblank _ second others
        rw [if_pos hblank, ← hpieces]
        simp
    · rename_i hblank
      rw [if_neg hblank]
      exact hpieces

namespace Filling

theorem flatten_lines (f : Filling) : f.lines.flatten = f.finished.reverse.flatten ++ f.line := by
  simp [lines]

theorem flatten_lines_put (f : Filling) (s : List Char) :
    (f.put s).lines.flatten = f.lines.flatten ++ s := by
  rw [flatten_lines, flatten_lines, List.append_assoc]
  rfl

theorem flatten_lines_newLine (f : Filling) : f.newLine.lines.flatten = f.lines.flatten := by
  unfold newLine
  split
  · rfl
  · simp [flatten_lines]

theorem flatten_lines_fold (width : Nat) (f : Filling) (word : List Char) :
    (f.fold width word).lines.flatten = f.lines.flatten ++ word := by
  have hparts : ∀ (others : List (List Char)) (f : Filling),
      (others.foldl (fun f part => f.newLine.put part) f).lines.flatten =
        f.lines.flatten ++ others.flatten := by
    intro others
    induction others with
    | nil => simp
    | cons part others ih =>
        intro f
        rw [List.foldl_cons, ih, flatten_lines_put, flatten_lines_newLine, List.flatten_cons,
          List.append_assoc]
  unfold fold
  split
  · rw [flatten_lines, flatten_lines, List.append_assoc]
  · rw [hparts, parts, flatten_partsFrom, List.nil_append, flatMap_chars_clusters]

theorem flatten_lines_place (width : Nat) (overflow : Overflow) (f : Filling) (word : List Char) :
    (f.place width overflow word).lines.flatten = f.lines.flatten ++ word := by
  unfold place
  simp only
  split
  · exact flatten_lines_put f word
  · split
    · exact flatten_lines_fold width f word
    · rw [flatten_lines_put, flatten_lines_newLine]

end Filling

theorem flatten_fillLines (width : Nat) (overflow : Overflow) (s : List Char) :
    (fillLines width overflow s).flatten = s := by
  have hplace : ∀ (words : List (List Char)) (f : Filling),
      (words.foldl (Filling.place width overflow) f).lines.flatten =
        f.lines.flatten ++ words.flatten := by
    intro words
    induction words with
    | nil => simp
    | cons word words ih =>
        intro f
        rw [List.foldl_cons, ih, Filling.flatten_lines_place, List.flatten_cons, List.append_assoc]
  unfold fillLines
  split
  · simp
  · rename_i hwords
    rw [hplace, flatten_spacedWords hwords]
    rfl

theorem dropExcess_isInfix (width : Nat) (line : List Char) : dropExcess width line <:+: line :=
  List.IsPrefix.isInfix ( List.take_prefix _ _)

theorem isInfix_of_mem_cutAt {starts : List Nat} {position : Nat} {s part : List Char}
    (h : part ∈ cutAt starts position s) : part <:+: s := by
  have hpart := List.infix_of_mem_flatten h
  rwa [flatten_cutAt] at hpart

/-- Fields are cut out of the text, the first one at its front. -/
theorem fields_isInfix (separator : Char) (s : List Char) :
    (∀ field ∈ Text.fields separator s, field <:+: s) ∧
      ∀ field others, Text.fields separator s = field :: others → field <+: s := by
  induction s with
  | nil =>
      have hfields : Text.fields separator [] = [[]] := rfl
      rw [hfields]
      refine ⟨by simp, fun field others h => ?_⟩
      obtain ⟨rfl, -⟩ := List.cons.inj h
      exact List.nil_prefix
  | cons c rest ih =>
      rw [Text.fields]
      by_cases hc : c = separator
      · rw [if_pos hc]
        refine ⟨List.forall_mem_cons.mpr ⟨ List.nil_infix, fun field hfield => ?_⟩, ?_⟩
        · exact (ih.1 field hfield).trans (List.suffix_cons c rest).isInfix
        · intro field others h
          obtain ⟨rfl, -⟩ := List.cons.inj h
          exact List.nil_prefix
      · rw [if_neg hc]
        obtain ⟨first, others, hfields⟩ :=
          List.exists_cons_of_ne_nil (Text.fields_ne_nil separator rest)
        rw [hfields] at ih ⊢
        have hfirst : c :: first <+: c :: rest :=
          (List.prefix_cons_inj c).mpr (ih.2 first others rfl)
        refine ⟨List.forall_mem_cons.mpr ⟨hfirst.isInfix, fun field hfield => ?_⟩, ?_⟩
        · exact (ih.1 field (List.mem_cons_of_mem _ hfield)).trans
            (List.suffix_cons c rest).isInfix
        · intro field more h
          obtain ⟨rfl, -⟩ := List.cons.inj h
          exact hfirst

theorem tabWidths_pos {column : Nat} {fields : List (List Char)} :
    ∀ width ∈ tabWidths column fields, 0 < width := by
  induction fields generalizing column with
  | nil => simp [tabWidths]
  | cons field others ih =>
      rcases others with _ | ⟨next, others⟩
      · simp [tabWidths]
      · rw [tabWidths]
        exact List.forall_mem_cons.mpr ⟨by omega, ih⟩

theorem length_tabWidths (column : Nat) (fields : List (List Char)) :
    fields.length ≤ (tabWidths column fields).length + 1 := by
  induction fields generalizing column with
  | nil => exact Nat.zero_le _
  | cons field others ih =>
      rcases others with _ | ⟨next, others⟩
      · exact Nat.le_add_left _ _
      · rw [tabWidths, List.length_cons]
        exact Nat.succ_le_succ (ih _)

theorem joinersApart_spacedFields {fields : List (List Char)} {widths : List Nat}
    (hfields : ∀ field ∈ fields, JoinersApart field) (hwidths : ∀ width ∈ widths, 0 < width)
    (hlength : fields.length ≤ widths.length + 1) : JoinersApart (spacedFields fields widths) := by
  induction fields generalizing widths with
  | nil =>
      rcases widths with _ | ⟨width, widths⟩
      · exact .nil
      · exact .nil
  | cons field others ih =>
      rw [List.forall_mem_cons] at hfields
      rcases widths with _ | ⟨width, widths⟩
      · obtain rfl : others = [] := List.length_eq_zero_iff.mp (by simpa using hlength)
        simpa [spacedFields] using hfields.1
      · rw [List.forall_mem_cons] at hwidths
        -- One space at least stands between two fields, so their joiners do not meet.
        obtain ⟨spaces, rfl⟩ := Nat.exists_eq_succ_of_ne_zero (Nat.ne_of_gt hwidths.1)
        have hspaces : JoinersApart (List.replicate (spaces + 1) ' ') :=
          joinersApart_of_notMem fun hmem =>
            absurd (List.mem_replicate.mp hmem).2 (by decide)
        have hothers := ih hfields.2 hwidths.2 (by simpa using hlength)
        rw [spacedFields]
        refine joinersApart_append (joinersApart_append hfields.1 hspaces (Or.inr ?_)) hothers
          (Or.inl ?_)
        · rw [List.replicate_succ]
          exact fun hhead => absurd (Option.some.inj hhead) (by decide)
        · rw [List.replicate_succ', ← List.append_assoc, List.getLast?_concat]
          decide

theorem joinersApart_withoutTabs {line : List Char} (h : JoinersApart line) :
    JoinersApart (withoutTabs line) :=
  joinersApart_spacedFields
    (fun field hfield => h.of_part ((fields_isInfix '\t' line).1 field hfield))
    tabWidths_pos (length_tabWidths _ _)

theorem snd_mem_of_mem_placed {gap start : Nat} {texts : List (List Char)}
    {entry : Nat × List Char} (h : entry ∈ placed gap start texts) : entry.2 ∈ texts := by
  induction texts generalizing start with
  | nil => cases h
  | cons s others ih =>
      rcases List.mem_cons.mp h with rfl | h
      · exact List.mem_cons_self
      · exact List.mem_cons_of_mem s (ih h)

/-- The lines of a text without joiners side by side are all cut, into parts of this kind. -/
theorem exists_partedLines {s : List Char} (h : JoinersApart s) (width : Nat) (starts : List Nat) :
    ∃ lines, partedLines width starts s = .ok lines ∧
      ∀ line ∈ lines, ∀ part ∈ line, JoinersApart part := by
  unfold partedLines
  simp only
  refine exists_mapM_eq_ok fun entry hentry => ?_
  have hline : JoinersApart entry.2 := by
    obtain ⟨⟨start, line⟩, hplaced, hentry⟩ := List.mem_flatMap.mp hentry
    obtain ⟨⟨position, filled⟩, hfilled, rfl⟩ := List.mem_map.mp hentry
    have hfield := (fields_isInfix '\n' s).1 line (snd_mem_of_mem_placed hplaced)
    have hpart := List.infix_of_mem_flatten (snd_mem_of_mem_placed hfilled)
    rw [flatten_fillLines] at hpart
    exact (joinersApart_withoutTabs (h.of_part hfield)).of_part hpart
  obtain ⟨cut, hcut, hapart⟩ :=
    exists_truncate (hline.of_part (dropExcess_isInfix width entry.2)) width
  rw [hcut]
  exact ⟨_, rfl, fun part hpart => hapart.of_part (isInfix_of_mem_cutAt hpart)⟩

end SymbolReference.Terminal

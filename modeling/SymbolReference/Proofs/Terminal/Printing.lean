import SymbolReference.Proofs.Terminal.Cutting
import SymbolReference.Proofs.Terminal.Markup

namespace SymbolReference.Terminal

/-- Whether the joiners of a text stand inside of it, each by itself. -/
structure JoinersInside (s : List Char) : Prop where
  apart : JoinersApart s
  head : s.head? ≠ some joiner
  last : s.getLast? ≠ some joiner

theorem JoinersInside.append {s t : List Char} (hs : JoinersInside s) (ht : JoinersInside t) :
    JoinersInside (s ++ t) where
  apart := joinersApart_append hs.apart ht.apart (Or.inr ht.head)
  head := by
    rw [List.head?_append]
    intro hhead
    rcases Option.or_eq_some_iff.mp hhead with hhead | ⟨-, hhead⟩
    · exact hs.head hhead
    · exact ht.head hhead
  last := by
    rw [List.getLast?_append]
    intro hlast
    rcases Option.or_eq_some_iff.mp hlast with hlast | ⟨-, hlast⟩
    · exact ht.last hlast
    · exact hs.last hlast

theorem joinersInside_of_notMem {s : List Char} (h : joiner ∉ s) : JoinersInside s where
  apart := joinersApart_of_notMem h
  head hhead := h (List.mem_of_head? hhead)
  last hlast := h (List.mem_of_getLast? hlast)

/-- Whether characters are all printed and none of their joiners is the last or stands beside
another one. `begun` says whether a character other than a joiner stands right before them. -/
def drawsInside : Bool → List Char → Bool
  | begun, [] => begun
  | begun, c :: rest =>
    if c.toNat = joiner.toNat then begun && drawsInside false rest
    else Nat.blt 13 c.toNat && drawsInside true rest

theorem drawsInside_cons {begun : Bool} {c : Char} {rest : List Char}
    (h : drawsInside begun (c :: rest) = true) :
    (c = joiner ∧ begun = true ∧ drawsInside false rest = true) ∨
      (c ≠ joiner ∧ isDropped c = false ∧ drawsInside true rest = true) := by
  rw [drawsInside] at h
  split at h
  · rename_i hc
    rw [Bool.and_eq_true] at h
    exact Or.inl ⟨Char.toNat_inj.mp hc, h⟩
  · rename_i hc
    rw [Bool.and_eq_true, Nat.blt_eq] at h
    have hprinted : isDropped c = false := by
      simp only [isDropped, List.contains_eq_mem, decide_eq_false_iff_not, List.mem_cons,
        List.not_mem_nil, or_false]
      omega
    exact Or.inr ⟨fun hjoiner => hc (congrArg Char.toNat hjoiner), hprinted, h.2⟩

theorem isDropped_of_drawsInside {begun : Bool} {chars : List Char}
    (h : drawsInside begun chars = true) : ∀ c ∈ chars, isDropped c = false := by
  induction chars generalizing begun with
  | nil => simp
  | cons c rest ih =>
      rcases drawsInside_cons h with ⟨rfl, -, hrest⟩ | ⟨-, hprinted, hrest⟩
      · exact List.forall_mem_cons.mpr ⟨by decide, ih hrest⟩
      · exact List.forall_mem_cons.mpr ⟨hprinted, ih hrest⟩

theorem joinersApart_of_drawsInside {begun : Bool} {chars : List Char}
    (h : drawsInside begun chars = true) :
    JoinersApart chars ∧ (chars.head? = some joiner → begun = true) := by
  induction chars generalizing begun with
  | nil => exact ⟨.nil, by simp⟩
  | cons c rest ih =>
      rcases drawsInside_cons h with ⟨rfl, hbegun, hrest⟩ | ⟨hc, -, hrest⟩
      · obtain ⟨hapart, hhead⟩ := ih hrest
        refine ⟨List.isChain_cons.mpr ⟨?_, hapart⟩, fun _ => hbegun⟩
        rintro d hd ⟨-, rfl⟩
        cases hhead hd
      · refine ⟨List.isChain_cons.mpr ⟨fun d _ hpair => hc hpair.1, (ih hrest).1⟩, ?_⟩
        exact fun hhead => absurd (Option.some.inj hhead) hc

theorem getLast?_ne_of_drawsInside {begun : Bool} {chars : List Char}
    (h : drawsInside begun chars = true) : chars.getLast? ≠ some joiner := by
  induction chars generalizing begun with
  | nil => simp
  | cons c rest ih =>
      rcases rest with _ | ⟨d, rest⟩
      · rcases drawsInside_cons h with ⟨-, -, hrest⟩ | ⟨hc, -, -⟩
        · cases hrest
        · exact fun hlast => hc (Option.some.inj hlast)
      · rw [List.getLast?_cons_cons]
        rcases drawsInside_cons h with ⟨-, -, hrest⟩ | ⟨-, -, hrest⟩
        · exact ih hrest
        · exact ih hrest

theorem pictographs_all :
    pictographs.all (fun entry => drawsInside false entry.2) = true := by
  decide +kernel

theorem joinersInside_filter_pictograph? {name : String} {chars : List Char}
    (h : pictograph? name = some chars) :
    JoinersInside (chars.filter fun c => !isDropped c) := by
  obtain ⟨before, after, hentries, -⟩ := List.lookup_eq_some_iff.mp h
  have hmem : (name, chars) ∈ pictographs := by
    rw [hentries]
    exact List.mem_append_right before List.mem_cons_self
  have hdraws : drawsInside false chars = true := List.all_eq_true.mp pictographs_all _ hmem
  obtain ⟨hapart, hhead⟩ := joinersApart_of_drawsInside hdraws
  rw [List.filter_eq_self.mpr fun c hc => by rw [isDropped_of_drawsInside hdraws c hc]; rfl]
  exact ⟨hapart, fun hjoiner => Bool.noConfusion (hhead hjoiner), getLast?_ne_of_drawsInside hdraws⟩

theorem joinersInside_filter_variant (name : List Char) :
    JoinersInside ((splitVariant name).2.filter fun c => !isDropped c) := by
  have hvariant : ∀ variant ∈ [[Char.ofNat 0xFE0E], [Char.ofNat 0xFE0F], []],
      joiner ∉ variant.filter fun c => !isDropped c := by
    decide
  apply joinersInside_of_notMem
  apply hvariant
  unfold splitVariant
  split
  · simp
  · split
    · simp
    · simp

theorem joinersInside_filter_namedPictograph {name : List Char} (h : joiner ∉ name) :
    JoinersInside ((namedPictograph name).filter fun c => !isDropped c) := by
  unfold namedPictograph
  simp only
  split
  · rename_i chars hchars
    rw [List.filter_append]
    exact (joinersInside_filter_pictograph? hchars).append (joinersInside_filter_variant name)
  · refine joinersInside_of_notMem fun hmem => ?_
    have hmem := List.mem_of_mem_filter hmem
    have hcolon : joiner ≠ ':' := by decide
    simp [h, hcolon] at hmem

theorem joinersInside_filter_drawFrom {s : List Char} (h : joiner ∉ s) (fuel : Nat) :
    JoinersInside ((drawFrom fuel s).filter fun c => !isDropped c) := by
  induction fuel generalizing s with
  | zero => exact joinersInside_of_notMem fun hmem => h (List.mem_of_mem_filter hmem)
  | succ fuel ih =>
      rcases s with _ | ⟨c, rest⟩
      · exact joinersInside_of_notMem fun hmem => h (List.mem_of_mem_filter hmem)
      · rw [List.mem_cons, not_or] at h
        -- A character that begins no name of a pictograph stays as it is.
        have hplain : JoinersInside ((c :: drawFrom fuel rest).filter fun c => !isDropped c) := by
          have hc : joiner ∉ [c].filter fun c => !isDropped c :=
            fun hmem => h.1 (List.mem_singleton.mp (List.mem_of_mem_filter hmem))
          rw [← List.singleton_append, List.filter_append]
          exact (joinersInside_of_notMem hc).append (ih h.2)
        rw [drawFrom]
        split
        · simp only
          split
          · rename_i following hfollowing
            have hname : joiner ∉ rest.takeWhile fun d => d ≠ ':' && !Text.isBlank d :=
              fun hmem => h.2 ((List.takeWhile_sublist _).mem hmem)
            have hfollows : joiner ∉ following := by
              intro hmem
              have hrest := List.mem_cons_of_mem ':' hmem
              rw [← hfollowing] at hrest
              exact h.2 (List.mem_of_mem_drop hrest)
            rw [List.filter_append]
            exact (joinersInside_filter_namedPictograph hname).append (ih hfollows)
          · exact hplain
        · exact hplain

theorem joinersInside_shownPart {s : List Char} (h : joiner ∉ s) : JoinersInside (shownPart s) :=
  joinersInside_filter_drawFrom h s.length

theorem joiner_notMem_collected {text shown : List Char} (htext : joiner ∉ text)
    (h : Segment.text shown ∈ collected text) : joiner ∉ shown := by
  unfold collected at h
  split at h
  · cases h
  · obtain rfl := Segment.text.inj (List.mem_singleton.mp h)
    exact fun hmem => htext (List.mem_reverse.mp hmem)

theorem joiner_notMem_segmentsFrom {fuel position : Nat} {text s : List Char}
    (htext : joiner ∉ text) (h : joiner ∉ s) :
    ∀ shown, Segment.text shown ∈ segmentsFrom fuel position text s → joiner ∉ shown := by
  induction fuel generalizing position text s with
  | zero => exact fun _ => joiner_notMem_collected htext
  | succ fuel ih =>
      rcases s with _ | ⟨c, rest⟩
      · exact fun _ => joiner_notMem_collected htext
      · intro shown hshown
        rw [segmentsFrom, drop_length_takeWhile] at hshown
        split at hshown
        · rw [List.mem_cons, not_or] at h
          exact ih (by simp [h.1, htext]) h.2 shown hshown
        · rename_i content following htag
          obtain ⟨-, hafter⟩ := exists_of_tagAt?_eq_some htag
          have hwritten : joiner ∉ '[' :: content ++ ']' :: following := by
            rw [← hafter]
            exact fun hmem => h ((List.dropWhile_sublist _).mem hmem)
          rw [List.mem_append, List.mem_append, List.mem_cons] at hshown
          rcases hshown with (hshown | hshown) | hshown | hshown
          · exact joiner_notMem_collected htext hshown
          · refine joiner_notMem_collected (fun hmem => ?_) hshown
            exact absurd (List.mem_replicate.mp hmem).2 (by decide)
          · split at hshown
            · obtain rfl := Segment.text.inj hshown
              simp only [List.mem_append, List.mem_cons, not_or] at hwritten ⊢
              exact ⟨hwritten.1, hwritten.2.1, by simp⟩
            · cases hshown
          · refine ih (by simp) ?_ shown hshown
            exact fun hmem => hwritten (List.mem_append_right _ (List.mem_cons_of_mem _ hmem))

theorem sublist_unescapeBrackets (s : List Char) : (unescapeBrackets s).Sublist s := by
  fun_induction unescapeBrackets s with
  | case1 => exact List.Sublist.refl _
  | case2 rest ih => exact (ih.cons_cons '[').cons '\\'
  | case3 c rest _ ih => exact ih.cons_cons c

theorem joiner_notMem_plainParts {s : List Char} (h : joiner ∉ s) :
    ∀ part ∈ plainParts s, joiner ∉ part := by
  unfold plainParts
  split
  · intro part hpart hmem
    obtain ⟨segment, hsegment, rfl⟩ := List.mem_map.mp hpart
    cases segment with
    | tag => cases hmem
    | text shown =>
        exact joiner_notMem_segmentsFrom (by simp) h shown hsegment
          ((sublist_unescapeBrackets shown).mem hmem)
  · simpa using h

theorem joinersInside_shown {s : List Char} (h : joiner ∉ s) : JoinersInside (shown s) := by
  have hparts := joiner_notMem_plainParts h
  rw [shown]
  generalize plainParts s = parts at hparts
  induction parts with
  | nil => exact joinersInside_of_notMem (by simp)
  | cons part parts ih =>
      rw [List.forall_mem_cons] at hparts
      rw [List.flatMap_cons]
      exact (joinersInside_shownPart hparts.1).append (ih hparts.2)

theorem error_ofLines_eq_none {lines : List (List (List Char))}
    (h : ∀ line ∈ lines, ∀ part ∈ line, JoinersApart part) (width : Nat) :
    (Printout.ofLines width lines).error = none := by
  induction lines with
  | nil => rfl
  | cons line lines ih =>
      rw [List.forall_mem_cons] at h
      obtain ⟨cut, hcut⟩ := exists_fitParts h.1 width
      rw [Printout.ofLines, hcut]
      exact ih h.2

theorem error_print_eq_none {s : List Char} (h : joiner ∉ s) (width : Nat) :
    (print width s).error = none := by
  unfold print
  split
  · rfl
  · obtain ⟨lines, hlines, hapart⟩ := exists_partedLines (joinersInside_shown h).apart width
      (partStarts (tagged s ++ highlights (shown s)) (shown s))
    simp only [hlines]
    exact error_ofLines_eq_none hapart width

end SymbolReference.Terminal

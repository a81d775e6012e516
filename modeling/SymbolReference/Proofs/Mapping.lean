import Mathlib.Data.List.Nodup
import SymbolReference.Mapping

namespace SymbolReference

variable {α : Type}

theorem lookup_cons_eq_ite {κ : Type} [BEq κ] [LawfulBEq κ] [DecidableEq κ] (entry : κ × α)
    (others : List (κ × α)) (name : κ) :
    (entry :: others).lookup name = if name = entry.1 then some entry.2 else others.lookup name := by
  obtain ⟨key, value⟩ := entry
  rw [List.lookup_cons]
  by_cases hname : name = key
  · simp [hname]
  · have hbeq : (name == key) = false := beq_eq_false_iff_ne.mpr hname
    simp [hname, hbeq]

theorem lookup_writeEntry (entries : List (String × α)) (name other : String) (value : α) :
    (writeEntry entries name value).lookup other =
      if other = name then some value else entries.lookup other := by
  induction entries with
  | nil => exact lookup_cons_eq_ite (name, value) [] other
  | cons entry others ih =>
      rw [writeEntry, lookup_cons_eq_ite entry others]
      by_cases hname : entry.1 = name
      · rw [if_pos hname, lookup_cons_eq_ite, hname]
        by_cases hother : other = name
        · rw [if_pos hother, if_pos hother]
        · rw [if_neg hother, if_neg hother, if_neg hother]
      · rw [if_neg hname, lookup_cons_eq_ite, ih]
        by_cases hentry : other = entry.1
        · have hother : other ≠ name := fun heq => hname (hentry.symm.trans heq)
          rw [if_pos hentry, if_neg hother, if_pos hentry]
        · rw [if_neg hentry, if_neg hentry]

theorem lookup_eq_none_iff_notMem (entries : List (String × α)) (name : String) :
    entries.lookup name = none ↔ name ∉ entries.map Prod.fst := by
  rw [List.lookup_eq_none_iff]
  constructor
  · intro h hmem
    obtain ⟨entry, hentry, rfl⟩ := List.mem_map.mp hmem
    simpa using h entry hentry
  · intro h entry hentry
    have hne : name ≠ entry.1 := fun heq => h (heq ▸ List.mem_map_of_mem hentry)
    simpa using hne

theorem mem_of_lookup_reverse {entries : List (String × α)} {name : String} {value : α}
    (h : entries.reverse.lookup name = some value) : (name, value) ∈ entries := by
  obtain ⟨before, after, hentries, -⟩ := List.lookup_eq_some_iff.mp h
  have hmem : (name, value) ∈ entries.reverse := by simp [hentries]
  exact List.mem_reverse.mp hmem

theorem writeEntry_of_notMem {entries : List (String × α)} {name : String}
    (h : name ∉ entries.map Prod.fst) (value : α) :
    writeEntry entries name value = entries ++ [(name, value)] := by
  induction entries with
  | nil => rfl
  | cons entry others ih =>
      rw [List.map_cons, List.mem_cons, not_or] at h
      rw [writeEntry, if_neg (Ne.symm h.1), ih h.2, List.cons_append]

theorem writeEntry_of_mem {entries : List (String × α)} {name : String}
    (hdistinct : (entries.map Prod.fst).Nodup) (h : name ∈ entries.map Prod.fst) (value : α) :
    writeEntry entries name value =
      entries.map fun entry => if entry.1 = name then (entry.1, value) else entry := by
  induction entries with
  | nil => cases h
  | cons entry others ih =>
      rw [List.map_cons, List.nodup_cons] at hdistinct
      rw [writeEntry, List.map_cons]
      by_cases hname : entry.1 = name
      · have hothers : others.map (fun entry => if entry.1 = name then (entry.1, value) else entry) =
            others := by
          refine (List.map_congr_left fun other hother => if_neg fun heq => ?_).trans (List.map_id _)
          exact hdistinct.1 (hname.trans heq.symm ▸ List.mem_map_of_mem hother)
        rw [if_pos hname, if_pos hname, hothers, hname]
      · have hmem : name ∈ others.map Prod.fst :=
          (List.mem_cons.mp h).resolve_left (Ne.symm hname)
        rw [if_neg hname, if_neg hname, ih hdistinct.2 hmem]

theorem map_writeEntry {β : Type} (f : String → α → β) (entries : List (String × α)) (name : String)
    (value : α) :
    (writeEntry entries name value).map (fun entry => (entry.1, f entry.1 entry.2)) =
      writeEntry (entries.map fun entry => (entry.1, f entry.1 entry.2)) name (f name value) := by
  induction entries with
  | nil => rfl
  | cons entry others ih =>
      rw [writeEntry, List.map_cons, writeEntry]
      by_cases hname : entry.1 = name
      · rw [if_pos hname, if_pos hname, List.map_cons]
      · rw [if_neg hname, if_neg hname, List.map_cons, ih]

theorem filter_writeEntry {α : Type} {p : String × α → Bool} {name : String} {value : α}
    (h : ∀ v, p (name, v) = false) (entries : List (String × α)) :
    (writeEntry entries name value).filter p = entries.filter p := by
  induction entries with
  | nil => simp [writeEntry, h]
  | cons entry others ih =>
      obtain ⟨key, v⟩ := entry
      rw [writeEntry]
      by_cases hname : key = name
      · subst hname
        simp [h]
      · simp [hname, List.filter_cons, ih]

namespace Mapping

theorem ext_toList {a b : Mapping α} (h : a.toList = b.toList) : a = b := by
  obtain ⟨entries, hentries⟩ := a
  obtain ⟨others, hothers⟩ := b
  subst h
  rfl

theorem get?_eq_some_iff (m : Mapping α) (name : String) (value : α) :
    m.get? name = some value ↔ (name, value) ∈ m.toList := by
  rw [get?, List.lookup_eq_some_iff]
  constructor
  · rintro ⟨before, after, hentries, -⟩
    rw [toList, hentries]
    simp
  · intro hmem
    obtain ⟨before, after, hentries⟩ := List.append_of_mem hmem
    refine ⟨before, after, hentries, fun entry hentry => ?_⟩
    have hdistinct := m.distinct
    rw [show m.entries = before ++ (name, value) :: after from hentries, List.map_append,
      List.map_cons, List.nodup_append] at hdistinct
    have hne : entry.1 ≠ name :=
      hdistinct.2.2 _ (List.mem_map_of_mem hentry) _ List.mem_cons_self
    simpa using Ne.symm hne

theorem get?_eq_none_iff (m : Mapping α) (name : String) :
    m.get? name = none ↔ name ∉ m.names :=
  lookup_eq_none_iff_notMem m.entries name

theorem get?_insert (m : Mapping α) (name other : String) (value : α) :
    (m.insert name value).get? other = if other = name then some value else m.get? other :=
  lookup_writeEntry m.entries name other value

theorem get?_erase_of_ne (m : Mapping α) {name other : String} (h : other ≠ name) :
    (m.erase name).get? other = m.get? other := by
  refine Option.ext fun value => ?_
  rw [get?_eq_some_iff, get?_eq_some_iff]
  constructor
  · exact List.mem_of_mem_filter
  · intro hmem
    exact List.mem_filter.mpr ⟨hmem, bne_iff_ne.mpr h⟩

theorem get?_update (m : Mapping α) (entries : List (String × α)) (name : String) :
    (m.update entries).get? name = (entries.reverse.lookup name).or (m.get? name) := by
  induction entries generalizing m with
  | nil => rfl
  | cons entry others ih =>
      have hstep : m.update (entry :: others) = (m.insert entry.1 entry.2).update others := rfl
      rw [hstep, ih, get?_insert, List.reverse_cons, List.lookup_append, lookup_cons_eq_ite,
        Option.or_assoc]
      by_cases hname : name = entry.1
      · rw [if_pos hname, if_pos hname, Option.some_or]
      · rw [if_neg hname, if_neg hname, List.lookup_nil, Option.none_or]

theorem get?_ofList (entries : List (String × α)) (name : String) :
    (ofList entries).get? name = entries.reverse.lookup name := by
  rw [ofList, get?_update]
  exact Option.or_none

theorem mem_names_update (m : Mapping α) (entries : List (String × α)) (name : String) :
    name ∈ (m.update entries).names ↔ name ∈ m.names ∨ name ∈ entries.map Prod.fst := by
  induction entries generalizing m with
  | nil => simp [update]
  | cons entry others ih =>
      have hstep : m.update (entry :: others) = (m.insert entry.1 entry.2).update others := rfl
      have hinsert : name ∈ (m.insert entry.1 entry.2).names ↔ name ∈ m.names ∨ name = entry.1 :=
        mem_names_writeEntry m.entries entry.1 name entry.2
      rw [hstep, ih, hinsert, List.map_cons, List.mem_cons, or_assoc]

theorem mem_toList_update {m : Mapping α} {entries : List (String × α)} {entry : String × α}
    (h : entry ∈ (m.update entries).toList) : entry ∈ m.toList ∨ entry ∈ entries := by
  obtain ⟨name, value⟩ := entry
  rw [← get?_eq_some_iff, get?_update, Option.or_eq_some_iff] at h
  rcases h with h | ⟨-, h⟩
  · exact Or.inr (mem_of_lookup_reverse h)
  · exact Or.inl ((get?_eq_some_iff m name value).mp h)

theorem toList_update_of_nodup {m : Mapping α} {entries : List (String × α)}
    (h : ((m.toList ++ entries).map Prod.fst).Nodup) :
    (m.update entries).toList = m.toList ++ entries := by
  induction entries generalizing m with
  | nil => exact (List.append_nil _).symm
  | cons entry others ih =>
      have hfresh : entry.1 ∉ m.entries.map Prod.fst := by
        rw [List.map_append, List.map_cons, List.nodup_append] at h
        exact fun hmem => h.2.2 _ hmem _ List.mem_cons_self rfl
      have hinsert : (m.insert entry.1 entry.2).toList = m.toList ++ [entry] :=
        writeEntry_of_notMem hfresh entry.2
      have hnodup : (((m.insert entry.1 entry.2).toList ++ others).map Prod.fst).Nodup := by
        rwa [hinsert, List.append_assoc]
      have hupdate := ih hnodup
      rw [hinsert, List.append_assoc] at hupdate
      exact hupdate

theorem toList_ofList {entries : List (String × α)} (h : (entries.map Prod.fst).Nodup) :
    (ofList entries).toList = entries :=
  toList_update_of_nodup h

theorem toList_update_map {β : Type} (f : String → α → β) {m : Mapping α} {other : Mapping β}
    (h : other.toList = m.toList.map fun entry => (entry.1, f entry.1 entry.2))
    (entries : List (String × α)) :
    (other.update (entries.map fun entry => (entry.1, f entry.1 entry.2))).toList =
      (m.update entries).toList.map fun entry => (entry.1, f entry.1 entry.2) := by
  induction entries generalizing m other with
  | nil => exact h
  | cons entry rest ih =>
      have hinsert : (other.insert entry.1 (f entry.1 entry.2)).toList =
          (m.insert entry.1 entry.2).toList.map fun entry => (entry.1, f entry.1 entry.2) := by
        rw [toList_insert, toList_insert, h, map_writeEntry]
      exact ih hinsert

/-- Values may be changed before or after a mapping is built from them. -/
theorem toList_ofList_map {β : Type} (f : String → α → β) (entries : List (String × α)) :
    (ofList (entries.map fun entry => (entry.1, f entry.1 entry.2))).toList =
      (ofList entries).toList.map fun entry => (entry.1, f entry.1 entry.2) :=
  toList_update_map f rfl entries

theorem perm_of_get?_eq {a b : Mapping α} (h : ∀ name, a.get? name = b.get? name) :
    a.toList.Perm b.toList := by
  refine (List.perm_ext_iff_of_nodup a.distinct.of_map b.distinct.of_map).mpr fun entry => ?_
  have ha := get?_eq_some_iff a entry.1 entry.2
  have hb := get?_eq_some_iff b entry.1 entry.2
  exact ha.symm.trans (h entry.1 ▸ hb)

/-- The mapping without some names. -/
def eraseAll (m : Mapping α) (names : List String) : Mapping α :=
  names.foldl erase m

theorem toList_eraseAll (m : Mapping α) (names : List String) :
    (m.eraseAll names).toList = m.toList.filter fun entry => !names.contains entry.1 := by
  induction names generalizing m with
  | nil => simp [eraseAll]
  | cons name names ih =>
      have hstep : m.eraseAll (name :: names) = (m.erase name).eraseAll names := rfl
      have herase : (m.erase name).toList = m.toList.filter fun entry => entry.1 != name := rfl
      rw [hstep, ih, herase, List.filter_filter]
      refine List.filter_congr fun entry _ => ?_
      rw [List.contains_cons, Bool.not_or, Bool.and_comm]
      rfl

theorem eraseAll_eraseAll (m : Mapping α) (names others : List String) :
    (m.eraseAll names).eraseAll others = m.eraseAll (names ++ others) :=
  (List.foldl_append ..).symm

theorem eraseAll_append_comm (m : Mapping α) (names others : List String) :
    m.eraseAll (names ++ others) = m.eraseAll (others ++ names) := by
  apply ext_toList
  rw [toList_eraseAll, toList_eraseAll]
  refine List.filter_congr fun entry _ => ?_
  rw [List.contains_append, List.contains_append, Bool.or_comm]

theorem eraseAll_eq_self_iff (m : Mapping α) (names : List String) :
    m.eraseAll names = m ↔ ∀ name ∈ names, name ∉ m.names := by
  have hkept : m.eraseAll names = m ↔ ∀ entry ∈ m.toList, entry.1 ∉ names := by
    constructor
    · intro h
      have hlist := congrArg toList h
      rw [toList_eraseAll, List.filter_eq_self] at hlist
      simpa using hlist
    · intro h
      apply ext_toList
      rw [toList_eraseAll, List.filter_eq_self]
      simpa using h
  rw [hkept]
  constructor
  · intro h name hname hmem
    obtain ⟨entry, hentry, rfl⟩ := List.mem_map.mp hmem
    exact h entry hentry hname
  · intro h entry hentry hname
    exact h entry.1 hname (List.mem_map_of_mem hentry)

/-- Names that are written and then removed leave nothing behind. -/
theorem eraseAll_update (m : Mapping α) (entries : List (String × α)) (names : List String)
    (h : ∀ entry ∈ entries, entry.1 ∈ names) :
    (m.update entries).eraseAll names = m.eraseAll names := by
  induction entries generalizing m with
  | nil => rfl
  | cons entry entries ih =>
      have hstep : m.update (entry :: entries) = (m.insert entry.1 entry.2).update entries := rfl
      rw [hstep, ih _ fun e he => h e (List.mem_cons_of_mem entry he)]
      apply ext_toList
      have hname : entry.1 ∈ names := h entry List.mem_cons_self
      rw [toList_eraseAll, toList_eraseAll, toList_insert,
        filter_writeEntry fun v => by simpa using hname]

end Mapping

end SymbolReference

import Mathlib.Data.List.TakeWhile
import SymbolReference.Files
import SymbolReference.Proofs.Mapping
import SymbolReference.Proofs.Outcome

namespace SymbolReference.Files

theorem lookup_overwritten (entries : List (Place × String)) (place other : Place) (text : String) :
    (entries.map fun entry => if entry.1 = place then (place, text) else entry).lookup other =
      if other = place then (entries.lookup other).map fun _ => text else entries.lookup other := by
  induction entries with
  | nil => simp
  | cons entry others ih =>
      rw [List.map_cons, lookup_cons_eq_ite, lookup_cons_eq_ite, ih]
      by_cases hentry : entry.1 = place
      · by_cases hother : other = place
        · simp [hentry, hother]
        · simp [hentry, hother]
      · by_cases hother : other = entry.1
        · simp [hentry, hother]
        · simp [hentry, hother]

theorem text?_store (files : Files) (place other : Place) (text : String) :
    (files.store place text).text? other =
      if other = place then some text else files.text? other := by
  rw [store]
  cases hplace : files.text? place with
  | some old =>
      rw [Option.isSome_some, if_pos rfl]
      refine (lookup_overwritten files.texts place other text).trans ?_
      by_cases hother : other = place
      · have hold : files.texts.lookup place = some old := hplace
        rw [if_pos hother, if_pos hother, hother, hold, Option.map_some]
      · rw [if_neg hother, if_neg hother]
        rfl
  | none =>
      rw [Option.isSome_none, if_neg Bool.false_ne_true]
      refine List.lookup_append.trans ?_
      rw [lookup_cons_eq_ite, List.lookup_nil]
      by_cases hother : other = place
      · have hnone : files.texts.lookup place = none := hplace
        rw [if_pos hother, if_pos hother, hother, hnone, Option.none_or]
      · rw [if_neg hother, if_neg hother, Option.or_none]
        rfl

theorem isDirectory_iff (files : Files) (place : Place) :
    files.isDirectory place = true ↔ place = [] ∨ place = home ∨ place ∈ files.directories ∨
      ∃ held ∈ files.texts.map Prod.fst, place <+: held ∧ held ≠ place := by
  simp [isDirectory, or_assoc]

theorem isDirectory_store {files : Files} {place : Place} (h : files.isDirectory place = true)
    (stored : Place) (text : String) : (files.store stored text).isDirectory place = true := by
  have hdirectories : (files.store stored text).directories = files.directories := by
    rw [store]
    split
    · rfl
    · rfl
  have hheld : files.texts.map Prod.fst ⊆ (files.store stored text).texts.map Prod.fst := by
    rw [store]
    split
    · intro held hheld
      obtain ⟨entry, hentry, rfl⟩ := List.mem_map.mp hheld
      refine List.mem_map.mpr ⟨_, List.mem_map_of_mem hentry, ?_⟩
      by_cases hstored : entry.1 = stored
      · rw [if_pos hstored, hstored]
      · rw [if_neg hstored]
    · exact List.map_subset Prod.fst (List.subset_append_left _ _)
  rw [isDirectory_iff] at h ⊢
  rw [hdirectories]
  rcases h with h | h | h | ⟨held, hmem, hbelow⟩
  · exact Or.inl h
  · exact Or.inr (Or.inl h)
  · exact Or.inr (Or.inr (Or.inl h))
  · exact Or.inr (Or.inr (Or.inr ⟨held, hheld hmem, hbelow⟩))

theorem target?_eq_directory_iff (files : Files) (place : Place) :
    files.target? place = some .directory ↔
      files.text? place = none ∧ files.isDirectory place = true := by
  rw [target?]
  cases files.text? place with
  | some text => simp
  | none => simp

section Paths

variable {files later : Files} {path : String} {place : Place}

theorem follow_of_directories
    (h : ∀ place, files.target? place = some .directory → later.target? place = some .directory)
    {start : Place} {part : String} (hfollow : files.follow path start part = .ok place) :
    later.follow path start part = .ok place := by
  rw [follow] at hfollow
  cases htarget : files.target? start with
  | none =>
      rw [htarget] at hfollow
      cases hfollow
  | some found =>
      cases found with
      | file text =>
          rw [htarget] at hfollow
          cases hfollow
      | directory =>
          rw [htarget] at hfollow
          rw [follow, h start htarget]
          exact hfollow

/-- A path that can be followed leads to the same place as long as no directory goes. -/
theorem place_of_directories
    (h : ∀ place, files.target? place = some .directory → later.target? place = some .directory)
    (hplace : files.place path = .ok place) : later.place path = .ok place := by
  have hfold : ∀ (parts : List String) (start : Place),
      parts.foldlM (files.follow path) start = .ok place →
      parts.foldlM (later.follow path) start = .ok place := by
    intro parts
    induction parts with
    | nil => exact fun _ hend => hend
    | cons part others ih =>
        intro start hparts
        rw [List.foldlM_cons] at hparts ⊢
        obtain ⟨next, hnext, hothers⟩ := bind_eq_ok_iff.mp hparts
        exact bind_eq_ok_iff.mpr ⟨next, follow_of_directories h hnext, ih next hothers⟩
  unfold Files.place at hplace ⊢
  split at hplace
  · cases hplace
  · split at hplace
    · cases hplace
    · split at hplace
      · cases hplace
      · rename_i hnull hempty hlong
        simp only [hnull, hempty, hlong, Bool.false_eq_true, if_false]
        exact hfold _ _ hplace

theorem read_of_place {text : String} (hplace : files.place path = .ok place)
    (htext : files.text? place = some text) : files.read path = .ok text := by
  have hfind : files.find path = .ok (.file text) := by
    refine bind_eq_ok_iff.mpr ⟨place, hplace, ?_⟩
    rw [target?, htext]
    rfl
  exact bind_eq_ok_iff.mpr ⟨.file text, hfind, rfl⟩

end Paths

/-- Everything that was there is there still, and all texts are the same. -/
structure Extends (later files : Files) : Prop where
  text : ∀ place, later.text? place = files.text? place
  directory : ∀ place, files.isDirectory place = true → later.isDirectory place = true

theorem Extends.refl (files : Files) : Extends files files :=
  ⟨fun _ => rfl, fun _ h => h⟩

theorem Extends.trans {last later files : Files} (h : Extends last later)
    (h' : Extends later files) : Extends last files :=
  ⟨fun place => (h.text place).trans (h'.text place),
    fun place hplace => h.directory place (h'.directory place hplace)⟩

theorem Extends.target? {later files : Files} (h : Extends later files) {place : Place}
    (hplace : files.target? place = some .directory) : later.target? place = some .directory := by
  rw [target?_eq_directory_iff] at hplace ⊢
  exact ⟨(h.text place).trans hplace.1, h.directory place hplace.2⟩

theorem extends_makeDirectory {files made : Files} {path : String}
    (h : files.makeDirectory path = .ok made) : Extends made files := by
  rw [makeDirectory] at h
  obtain ⟨place, -, hmade⟩ := bind_eq_ok_iff.mp h
  split at hmade
  · cases hmade
  · obtain rfl := pure_eq_ok_iff.mp hmade
    refine ⟨fun _ => rfl, fun other hother => ?_⟩
    rw [isDirectory_iff] at hother ⊢
    rcases hother with hother | hother | hother | hother
    · exact Or.inl hother
    · exact Or.inr (Or.inl hother)
    · exact Or.inr (Or.inr (Or.inl (List.mem_cons_of_mem place hother)))
    · exact Or.inr (Or.inr (Or.inr hother))

theorem extends_ensureDirectory {files made : Files} {path : String}
    (h : files.ensureDirectory path = .ok made) : Extends made files := by
  rw [ensureDirectory] at h
  split at h
  · rename_i hmake
    cases h
    exact extends_makeDirectory hmake
  · cases h
  · split at h
    · cases h
      exact Extends.refl files
    · cases h

/-- Also when not all directories can be made, nothing that was there changes. -/
theorem extends_ensureDirectories (fuel : Nat) (files : Files) (path : String) :
    Extends (ensureDirectories fuel files path).1 files := by
  induction fuel generalizing files path with
  | zero => exact Extends.refl files
  | succ fuel ih =>
      rw [ensureDirectories]
      split
      · rename_i hmade
        exact extends_ensureDirectory hmade
      · split
        · exact Extends.refl files
        · have hparents := ih files (parentPath path)
          split
          · rename_i hfailed
            rw [hfailed] at hparents
            exact hparents
          · rename_i hmade
            rw [hmade] at hparents
            split
            · rename_i hlast
              exact (extends_ensureDirectory hlast).trans hparents
            · exact hparents
      · exact Extends.refl files

/-- What has been written at a path: the text can be read there, no other file is new or has another
text, and no directory is gone. -/
structure Written (files later : Files) (path text : String) : Prop where
  read : later.read path = .ok text
  others : ∃ place, later.place path = .ok place ∧
    ∀ other, other ≠ place → later.text? other = files.text? other
  directory : ∀ place, files.target? place = some .directory → later.target? place = some .directory

theorem written_of_writeText {files later : Files} {path text : String}
    (h : files.writeText path text = (later, .ok ())) : Written files later path text := by
  rw [writeText] at h
  rcases hplace : files.place path with e | place
  · rw [hplace] at h
    cases h
  simp only [hplace] at h
  have hnot : files.target? place ≠ some .directory := by
    intro htarget
    rw [htarget] at h
    cases h
  have hlater : later = files.store place text := by
    split at h
    · cases h
    · cases h
    · exact (congrArg Prod.fst h).symm
  subst hlater
  have hdirectories : ∀ other, files.target? other = some .directory →
      (files.store place text).target? other = some .directory := by
    intro other hother
    have hne : other ≠ place := fun heq => hnot (heq ▸ hother)
    rw [target?_eq_directory_iff] at hother ⊢
    exact ⟨by rw [text?_store, if_neg hne, hother.1], isDirectory_store hother.2 place text⟩
  -- Every directory is still there, so the path leads to the same place.
  have hlaterPlace : (files.store place text).place path = .ok place :=
    place_of_directories hdirectories hplace
  have htext : (files.store place text).text? place = some text := by
    rw [text?_store, if_pos rfl]
  refine ⟨?_, ⟨place, hlaterPlace, fun other hother => ?_⟩, hdirectories⟩
  · exact read_of_place hlaterPlace htext
  · rw [text?_store, if_neg hother]

theorem written_of_write {files later : Files} {path text : String}
    (h : files.write path text = (later, .ok ())) : Written files later path text := by
  have hextends := extends_ensureDirectories (path.length + 1) files (parentPath path)
  -- `delta`, since the equation of `write` is proved by running `ensureDirectories`.
  delta write at h
  rcases hmade : ensureDirectories (path.length + 1) files (parentPath path) with ⟨made, e | _⟩
  · rw [hmade] at h
    cases h
  · rw [hmade] at h hextends
    have hwritten : Written made later path text := written_of_writeText h
    obtain ⟨place, hplace, hothers⟩ := hwritten.others
    exact ⟨hwritten.read,
      ⟨place, hplace, fun other hother => (hothers other hother).trans (hextends.text other)⟩,
      fun other hother => hwritten.directory other (hextends.target? hother)⟩

/-- A text without halves of surrogate pairs can be held by a file. -/
theorem textError?_ofList {s : List Char} (h : s.any Text.isStandIn = false) :
    textError? (String.ofList s) = none := by
  have hall : s.takeWhile (fun c => !Text.isStandIn c) = s :=
    List.takeWhile_eq_self_iff.mpr fun c hc => by simpa using List.any_eq_false.mp h c hc
  simp only [textError?, String.toList_ofList, hall, List.drop_length]

/-- Whether a text that a file can hold is written does not depend on the text. -/
theorem snd_write_of_textError? {text : String} (h : textError? text = none) (files : Files)
    (path : String) : (files.write path text).2 = (files.write path "").2 := by
  have hempty : textError? "" = none := rfl
  delta write
  rcases ensureDirectories (path.length + 1) files (parentPath path) with ⟨made, e | _⟩
  · rfl
  · simp only [writeText, h, hempty]
    cases made.place path with
    | error e => rfl
    | ok place =>
        dsimp only
        rcases made.target? place with _ | _ | _
        · rfl
        · rfl
        · rfl

end SymbolReference.Files

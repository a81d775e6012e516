namespace SymbolReference

def writeEntry {α : Type} (entries : List (String × α)) (name : String) (value : α) :
    List (String × α) :=
  match entries with
  | [] => [(name, value)]
  | entry :: others =>
    if entry.1 = name then (name, value) :: others else entry :: writeEntry others name value

theorem mem_names_writeEntry {α : Type} (entries : List (String × α)) (name other : String)
    (value : α) :
    other ∈ (writeEntry entries name value).map Prod.fst ↔
      other ∈ entries.map Prod.fst ∨ other = name := by
  induction entries with
  | nil => simp [writeEntry]
  | cons entry others ih =>
      by_cases h : entry.1 = name
      · simp only [writeEntry, h, if_true, List.map_cons, List.mem_cons]
        constructor
        · rintro (h₁ | h₁)
          · exact Or.inr h₁
          · exact Or.inl (Or.inr h₁)
        · rintro ((h₁ | h₁) | h₁)
          · exact Or.inl h₁
          · exact Or.inr h₁
          · exact Or.inl h₁
      · simp only [writeEntry, h, if_false, List.map_cons, List.mem_cons]
        rw [ih]
        constructor
        · rintro (h₁ | h₁ | h₁)
          · exact Or.inl (Or.inl h₁)
          · exact Or.inl (Or.inr h₁)
          · exact Or.inr h₁
        · rintro ((h₁ | h₁) | h₁)
          · exact Or.inl h₁
          · exact Or.inr (Or.inl h₁)
          · exact Or.inr (Or.inr h₁)

theorem nodup_names_writeEntry {α : Type} (entries : List (String × α)) (name : String) (value : α)
    (h : (entries.map Prod.fst).Nodup) : ((writeEntry entries name value).map Prod.fst).Nodup := by
  induction entries with
  | nil => simp [writeEntry]
  | cons entry others ih =>
      rw [List.map_cons, List.nodup_cons] at h
      by_cases hname : entry.1 = name
      · simp only [writeEntry, hname, if_true, List.map_cons, List.nodup_cons]
        exact ⟨hname ▸ h.1, h.2⟩
      · simp only [writeEntry, hname, if_false, List.map_cons, List.nodup_cons]
        refine ⟨fun hmem => ?_, ih h.2⟩
        rcases (mem_names_writeEntry others name entry.1 value).mp hmem with hmem | hmem
        · exact h.1 hmem
        · exact hname hmem

/-- A mapping from distinct names to values in the order of insertion. -/
structure Mapping (α : Type) where
  entries : List (String × α)
  distinct : (entries.map Prod.fst).Nodup

namespace Mapping

variable {α : Type}

/-- The mapping without entries. -/
def empty : Mapping α :=
  ⟨[], List.nodup_nil⟩

instance : Inhabited (Mapping α) :=
  ⟨empty⟩

def insert (m : Mapping α) (name : String) (value : α) : Mapping α :=
  ⟨writeEntry m.entries name value, nodup_names_writeEntry m.entries name value m.distinct⟩

def update (m : Mapping α) (entries : List (String × α)) : Mapping α :=
  entries.foldl (fun built entry => built.insert entry.1 entry.2) m

def ofList (entries : List (String × α)) : Mapping α :=
  empty.update entries

/-- The entries in order. -/
def toList (m : Mapping α) : List (String × α) :=
  m.entries

def names (m : Mapping α) : List String :=
  m.entries.map Prod.fst

def values (m : Mapping α) : List α :=
  m.entries.map Prod.snd

def get? (m : Mapping α) (name : String) : Option α :=
  m.entries.lookup name

def erase (m : Mapping α) (name : String) : Mapping α :=
  ⟨m.entries.filter fun entry => entry.1 != name,
    m.distinct.sublist ((List.filter_sublist).map Prod.fst)⟩

@[simp] theorem toList_empty : (empty : Mapping α).toList = [] := rfl

@[simp] theorem toList_insert (m : Mapping α) (name : String) (value : α) :
    (m.insert name value).toList = writeEntry m.toList name value := rfl

theorem nodup_names (m : Mapping α) : m.names.Nodup :=
  m.distinct

end Mapping

end SymbolReference

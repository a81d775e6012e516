import Mathlib.Data.List.TakeWhile
import SymbolReference.Inspection.Look
import SymbolReference.Proofs.Inspection.ModuleOrder
import SymbolReference.Proofs.Text.Fields

namespace SymbolReference

/-- Whether a dotted name stands for something inside of another one. -/
def IsAncestor (parent name : List Char) : Prop :=
  ∃ rest, name = parent ++ '.' :: rest

theorem IsAncestor.length_lt {parent name : List Char} (h : IsAncestor parent name) :
    parent.length < name.length := by
  obtain ⟨rest, rfl⟩ := h
  simp

theorem IsAncestor.dot_mem {parent name : List Char} (h : IsAncestor parent name) :
    '.' ∈ name := by
  obtain ⟨rest, rfl⟩ := h
  simp

theorem isAncestor_append_iff {parent rest : List Char} (h : '.' ∉ rest) (other : List Char) :
    IsAncestor other (parent ++ '.' :: rest) ↔ other = parent ∨ IsAncestor other parent := by
  constructor
  · rintro ⟨tail, htail⟩
    rcases List.append_eq_append_iff.mp htail with ⟨more, hmore, hrest⟩ | ⟨more, hmore, hrest⟩
    · rcases more with _ | ⟨c, more⟩
      · exact Or.inl (by simpa using hmore)
      · obtain ⟨-, rfl⟩ := List.cons.inj hrest
        exact absurd (by simp) h
    · rcases more with _ | ⟨c, more⟩
      · exact Or.inl (by simpa using hmore.symm)
      · obtain ⟨rfl, -⟩ := List.cons.inj hrest
        exact Or.inr ⟨more, hmore⟩
  · rintro (rfl | ⟨tail, rfl⟩)
    · exact ⟨rest, rfl⟩
    · exact ⟨tail ++ '.' :: rest, by simp⟩

theorem parentName_of_notMem {name : List Char} (h : '.' ∉ name) : parentName name = none := by
  have hall : name.reverse.dropWhile (fun c => c ≠ '.') = [] := by
    rw [List.dropWhile_eq_nil_iff]
    intro c hc
    rw [decide_eq_true_eq]
    rintro rfl
    exact h (List.mem_reverse.mp hc)
  rw [parentName, hall]

theorem parentName_append {rest : List Char} (h : '.' ∉ rest) (parent : List Char) :
    parentName (parent ++ '.' :: rest) = some parent := by
  have hrest : ∀ c ∈ rest.reverse, decide (c ≠ '.') = true := by
    intro c hc
    rw [decide_eq_true_eq]
    rintro rfl
    exact h (List.mem_reverse.mp hc)
  have hdrop : (parent ++ '.' :: rest).reverse.dropWhile (fun c => c ≠ '.') =
      '.' :: parent.reverse := by
    rw [List.reverse_append, List.reverse_cons, List.append_assoc,
      List.dropWhile_append_of_pos hrest]
    rfl
  rw [parentName, hdrop]
  exact congrArg some (List.reverse_reverse parent)

theorem exists_parent_of_dot_mem {name : List Char} (h : '.' ∈ name) :
    ∃ parent rest, name = parent ++ '.' :: rest ∧ '.' ∉ rest := by
  obtain ⟨before, after, hreverse, hbefore⟩ :=
    List.eq_append_cons_of_mem (List.mem_reverse.mpr h)
  refine ⟨after.reverse, before.reverse, ?_, fun hmem => hbefore (List.mem_reverse.mp hmem)⟩
  rw [← List.reverse_reverse name, hreverse]
  simp

namespace Program

/-- The longest ancestor of a name that is a module. -/
structure NearestAncestor (p : Program) (name parent : List Char) (m : ModuleObject) : Prop where
  isAncestor : IsAncestor parent name
  present : p.module? (String.ofList parent) = some m
  nearest : ∀ other, IsAncestor other name → parent.length < other.length →
    p.module? (String.ofList other) = none

section Ancestors

variable {p : Program} {parent rest : List Char} (hrest : '.' ∉ rest)

include hrest

theorem nearestAncestor_of_present {m : ModuleObject}
    (h : p.module? (String.ofList parent) = some m) :
    p.NearestAncestor (parent ++ '.' :: rest) parent m where
  isAncestor := ⟨rest, rfl⟩
  present := h
  nearest other hother hlonger := by
    rcases (isAncestor_append_iff hrest other).mp hother with rfl | hother
    · exact absurd hlonger (lt_irrefl _)
    · exact absurd hother.length_lt (Nat.lt_asymm hlonger)

theorem NearestAncestor.eq_of_present {m other : ModuleObject} {ancestor : List Char}
    (h : p.module? (String.ofList parent) = some m)
    (hnearest : p.NearestAncestor (parent ++ '.' :: rest) ancestor other) : other = m := by
  rcases (isAncestor_append_iff hrest ancestor).mp hnearest.isAncestor with rfl | hancestor
  · exact Option.some.inj (hnearest.present.symm.trans h)
  · have habsent := hnearest.nearest parent ⟨rest, rfl⟩ hancestor.length_lt
    rw [h] at habsent
    cases habsent

theorem nearestAncestor_iff_of_absent (h : p.module? (String.ofList parent) = none)
    (ancestor : List Char) (m : ModuleObject) :
    p.NearestAncestor (parent ++ '.' :: rest) ancestor m ↔
      p.NearestAncestor parent ancestor m := by
  constructor
  · intro hnearest
    refine ⟨?_, hnearest.present, fun other hother => hnearest.nearest other ?_⟩
    · rcases (isAncestor_append_iff hrest ancestor).mp hnearest.isAncestor with rfl | hancestor
      · rw [hnearest.present] at h
        cases h
      · exact hancestor
    · exact (isAncestor_append_iff hrest other).mpr (Or.inr hother)
  · intro hnearest
    refine ⟨(isAncestor_append_iff hrest ancestor).mpr (Or.inr hnearest.isAncestor),
      hnearest.present, fun other hother hlonger => ?_⟩
    rcases (isAncestor_append_iff hrest other).mp hother with rfl | hother
    · exact h
    · exact hnearest.nearest other hother hlonger

end Ancestors

/-- Whether the search for the ancestors of a name ends at a module whose search path cannot be gone
through. -/
def Obstructs (p : Program) (name : List Char) (typeName : String) : Prop :=
  ∃ parent m, p.NearestAncestor name parent m ∧ m.searchPath? = some (.error typeName)

/-- The look for ancestors finds the nearest one. -/
theorem missing_cases (p : Program) (asked : String) {fuel : Nat} {name : List Char}
    (hstart : name.head? ≠ some '.') (hfuel : name.length ≤ fuel) :
    (∃ reason, p.missing asked fuel name = .notFound asked reason ∧
      ∀ typeName, ¬ p.Obstructs name typeName) ∨
    ∃ typeName, p.missing asked fuel name = .notIterable typeName ∧ p.Obstructs name typeName := by
  -- Each step goes from a name to its parent, so the length of the name bounds the steps.
  induction fuel generalizing name with
  | zero =>
      obtain rfl := List.length_eq_zero_iff.mp (Nat.le_zero.mp hfuel)
      refine Or.inl ⟨_, rfl, ?_⟩
      rintro typeName ⟨parent, m, hnearest, -⟩
      cases hnearest.isAncestor.dot_mem
  | succ fuel ih =>
      by_cases hdot : '.' ∈ name
      · obtain ⟨parent, rest, rfl, hrest⟩ := exists_parent_of_dot_mem hdot
        rcases parent with _ | ⟨c, parent⟩
        · exact absurd rfl hstart
        · have hshorter : (c :: parent).length ≤ fuel := by
            have hlonger := (IsAncestor.length_lt ⟨rest, rfl⟩ :
              (c :: parent).length < (c :: parent ++ '.' :: rest).length)
            omega
          rw [missing, parentName_append hrest]
          simp only [List.isEmpty_cons, Bool.false_eq_true, if_false]
          cases hmodule : p.module? (String.ofList (c :: parent)) with
          | none =>
              simp only [Obstructs, nearestAncestor_iff_of_absent hrest hmodule]
              exact ih hstart hshorter
          | some m =>
              -- The look ends here: only the nearest ancestor can stand in the way.
              have hnearest := nearestAncestor_of_present hrest hmodule
              have hsearch : ∀ typeName, p.Obstructs (c :: parent ++ '.' :: rest) typeName →
                  m.searchPath? = some (.error typeName) := by
                rintro typeName ⟨ancestor, other, hother, hpath⟩
                rw [← hother.eq_of_present hrest hmodule]
                exact hpath
              dsimp only
              rcases hpath : m.searchPath? with _ | typeName | _
              · refine Or.inl ⟨_, rfl, fun typeName hobstructs => ?_⟩
                cases hpath.symm.trans (hsearch typeName hobstructs)
              · exact Or.inr ⟨typeName, rfl, _, m, hnearest, hpath⟩
              · refine Or.inl ⟨_, rfl, fun typeName hobstructs => ?_⟩
                cases hpath.symm.trans (hsearch typeName hobstructs)
      · rw [missing, parentName_of_notMem hdot]
        refine Or.inl ⟨_, rfl, ?_⟩
        rintro typeName ⟨parent, m, hnearest, -⟩
        exact hdot hnearest.isAncestor.dot_mem

end Program

/-- Whether a name is neither empty nor relative. -/
def IsAbsolute (name : String) : Prop :=
  name ≠ "" ∧ name.toList.head? ≠ some '.'

/-- The fault by which an error of an import is reported, if it is. -/
def ImportError.fault? : ImportError → Option Fault
  | notFound name reason => some (importFault name reason)
  | emptyName | relativeName _ | notIterable _ => none

namespace Program

/-- A name under which a module can be imported. -/
def Provides (p : Program) (name : String) (m : ModuleObject) : Prop :=
  IsAbsolute name ∧ p.module? name = some m

/-- A name that is reported as missing: it can be looked for, no module has it, and nothing comes in
the way of the look for its ancestors. -/
def Misses (p : Program) (name : String) : Prop :=
  IsAbsolute name ∧ p.module? name = none ∧ ∀ typeName, ¬ p.Obstructs name.toList typeName

theorem importModule_of_isAbsolute (p : Program) {name : String} (h : IsAbsolute name) :
    p.importModule name =
      match p.module? name with
      | some m => .ok m
      | none => .error (p.missing name name.length name.toList) := by
  have hempty : ¬ name.isEmpty = true := fun hempty => h.1 (String.isEmpty_iff.mp hempty)
  have hrelative : ¬ name.startsWith "." = true := by
    rw [Text.startsWith_iff_head? (c := '.') (by decide)]
    exact h.2
  exact (if_neg hempty).trans (if_neg hrelative)

theorem importModule_of_not_isAbsolute (p : Program) {name : String} (h : ¬ IsAbsolute name) :
    ∃ e, p.importModule name = .error e ∧ e.fault? = none := by
  rw [importModule]
  by_cases hempty : name.isEmpty = true
  · rw [if_pos hempty]
    exact ⟨_, rfl, rfl⟩
  · have hrelative : name.startsWith "." = true := by
      rw [Text.startsWith_iff_head? (c := '.') (by decide)]
      by_contra hstart
      exact h ⟨fun hname => hempty (String.isEmpty_iff.mpr hname), hstart⟩
    rw [if_neg hempty, if_pos hrelative]
    exact ⟨_, rfl, rfl⟩

theorem importModule_eq_ok_iff {p : Program} {name : String} {m : ModuleObject} :
    p.importModule name = .ok m ↔ p.Provides name m := by
  by_cases habsolute : IsAbsolute name
  · rw [importModule_of_isAbsolute p habsolute]
    cases hmodule : p.module? name with
    | none => simp [Provides, hmodule]
    | some found => simp [Provides, hmodule, habsolute]
  · obtain ⟨e, he, -⟩ := importModule_of_not_isAbsolute p habsolute
    rw [he]
    constructor
    · intro h
      cases h
    · intro h
      exact absurd h.1 habsolute

theorem importModule_of_not_provided {p : Program} {name : String}
    (h : ∀ m, ¬ p.Provides name m) :
    ∃ e, p.importModule name = .error e ∧ (p.Misses name → ∃ reason, e = .notFound name reason) ∧
      (¬ p.Misses name → e.fault? = none) := by
  by_cases habsolute : IsAbsolute name
  · have hmodule : p.module? name = none := by
      cases hmodule : p.module? name with
      | none => rfl
      | some m => exact absurd ⟨habsolute, hmodule⟩ (h m)
    rw [importModule_of_isAbsolute p habsolute, hmodule]
    have hfuel : name.toList.length ≤ name.length := le_of_eq String.length_toList
    rcases p.missing_cases name habsolute.2 hfuel with
      ⟨reason, hmissing, hclear⟩ | ⟨typeName, hmissing, hobstructs⟩
    · refine ⟨_, rfl, fun _ => ⟨reason, hmissing⟩, fun hmisses => ?_⟩
      exact absurd ⟨habsolute, hmodule, hclear⟩ hmisses
    · refine ⟨_, rfl, fun hmisses => absurd hobstructs (hmisses.2.2 typeName), fun _ => ?_⟩
      rw [hmissing]
      rfl
  · obtain ⟨e, he, hfault⟩ := importModule_of_not_isAbsolute p habsolute
    exact ⟨e, he, fun hmisses => absurd hmisses.1 habsolute, fun _ => hfault⟩

/-- The first name that cannot be imported ends the search, whatever names come after it. -/
theorem importAll_eq_error {p : Program} {before : List String} {name : String} {e : ImportError}
    (hbefore : ∀ other ∈ before, ∃ m, p.Provides other m) (h : p.importModule name = .error e)
    (after : List String) : p.importAll (before ++ name :: after) = .error e := by
  induction before with
  | nil =>
      rw [List.nil_append, importAll, h]
      rfl
  | cons first before ih =>
      rw [List.forall_mem_cons] at hbefore
      obtain ⟨m, hm⟩ := hbefore.1
      rw [List.cons_append, importAll, importModule_eq_ok_iff.mpr hm, ih hbefore.2]
      rfl

/-- Gather modules by name, and note down the names that they say they have. -/
def gather (p : Program) (names : List String) : Except InspectError (List ModuleObject) :=
  match p.importAll names with
  | .error e => .error (.imports e)
  | .ok modules =>
    match modules.findSome? titleFault? with
    | some e => .error (.object e)
    | none => .ok modules

theorem inspectNames_eq_gather_bind (p : Program) (names : List String) (withHost : Bool) :
    p.inspectNames names withHost = p.gather names >>= fun modules =>
      match (p.look modules withHost).fault with
      | some e => .error (.object e)
      | none => .ok (p.inspect modules withHost) := by
  rw [inspectNames, gather]
  cases p.importAll names with
  | error e => rfl
  | ok modules =>
      cases htitle : modules.findSome? titleFault? with
      | none => simp only [htitle]; rfl
      | some e =>
          have hofFault : (fun m => (Look.ofFault? (titleFault? m)).fault) = titleFault? := rfl
          have hlook : (p.look modules withHost).fault = some e := by
            simp only [look, Look.fault_all, List.append_assoc]
            rw [List.findSome?_append, List.findSome?_map, Function.comp_def, hofFault, htitle]
            rfl
          simp only [htitle, hlook]
          rfl

theorem gather_eq_ok_iff {p : Program} {names : List String} {modules : List ModuleObject} :
    p.gather names = .ok modules ↔
      List.Forall₂ p.Provides names modules ∧ ∀ m ∈ modules, titleFault? m = none := by
  have himports : List.Forall₂ p.Provides names modules ↔ p.importAll names = .ok modules := by
    rw [importAll_eq_ok_iff]
    simp only [importModule_eq_ok_iff]
  rw [himports, gather]
  cases p.importAll names with
  | error e => simp
  | ok found =>
      rw [Except.ok.injEq]
      cases htitle : found.findSome? titleFault? with
      | none =>
          simp only [htitle, Except.ok.injEq]
          constructor
          · rintro rfl
            exact ⟨rfl, List.findSome?_eq_none_iff.mp htitle⟩
          · exact And.left
      | some e =>
          simp only [htitle, reduceCtorEq, false_iff, not_and]
          rintro rfl hnone
          rw [List.findSome?_eq_none_iff.mpr hnone] at htitle
          cases htitle

end Program

end SymbolReference

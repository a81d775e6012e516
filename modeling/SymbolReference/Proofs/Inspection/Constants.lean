import SymbolReference.Proofs.Document.Constants
import SymbolReference.Proofs.Inspection.ModuleOrder

namespace SymbolReference

/-- Code: what can be called, modules and classes. What wraps a class method cannot be called itself,
unless the method is one that every class has. -/
def Object.IsCode : Object → Prop
  | .function _ | .staticMethod _ | .callable _ | .klass _ | .module _ => True
  | .classMethod f => f.make = .rootClassMethod
  | .value _ => False

inductive Object.IsValue : Object → Value → Prop
  | value (v : Value) : IsValue (.value v) v
  | wrapper (f : FunctionObject) : IsValue (.classMethod f) (.object (f.wrapper "classmethod"))

/-- A module has a value, and no code, under the name of a constant. -/
def ModuleObject.DefinesConstant (m : ModuleObject) (name : String) (v : Value) : Prop :=
  isConstantName name = true ∧ ∃ o, (name, o) ∈ m.attributes ∧ ¬o.IsCode ∧ o.IsValue v

/-- The last module that defines a constant gives it this value. -/
def LastDefines (modules : List ModuleObject) (name : String) (v : Value) : Prop :=
  ∃ before m after, modules = before ++ m :: after ∧ m.DefinesConstant name v ∧
    ∀ other ∈ after, ∀ w, ¬other.DefinesConstant name w

theorem Object.constant?_eq_some_iff {o : Object} {v : Value} :
    o.constant? = some v ↔ ¬o.IsCode ∧ o.IsValue v := by
  cases o with
  | value w =>
      constructor
      · rintro ⟨⟩
        exact ⟨id, .value _⟩
      · rintro ⟨-, ⟨⟩⟩
        rfl
  | classMethod f =>
      by_cases hmake : f.make = .rootClassMethod
      · simp [constant?, IsCode, hmake]
      · have hwrapped : (Object.classMethod f).constant? = some (.object (f.wrapper "classmethod")) := by
          rw [constant?]
          split
          · contradiction
          · rfl
        rw [hwrapped]
        constructor
        · rintro ⟨⟩
          exact ⟨hmake, .wrapper f⟩
        · rintro ⟨-, ⟨⟩⟩
          rfl
  | _ => simp [constant?, IsCode]

theorem Object.exists_isValue {o : Object} (h : ¬o.IsCode) : ∃ v, o.IsValue v := by
  cases o with
  | value v => exact ⟨v, .value v⟩
  | classMethod f => exact ⟨_, .wrapper f⟩
  | _ => exact absurd trivial h

theorem ModuleObject.mem_values_iff_definesConstant {m : ModuleObject} {name : String} {v : Value} :
    (name, v) ∈ m.values isConstantName ↔ m.DefinesConstant name v := by
  simp only [mem_values, Object.constant?_eq_some_iff, DefinesConstant]

theorem ModuleObject.names_values_sublist (m : ModuleObject) (isName : String → Bool) :
    ((m.values isName).map Prod.fst).Sublist (m.attributes.map Prod.fst) := by
  unfold values
  induction m.attributes with
  | nil => exact List.Sublist.refl []
  | cons entry others ih =>
      rw [List.filterMap_cons, List.map_cons]
      split
      · exact ih.cons entry.1
      · rename_i kept hkept
        have hname : kept.1 = entry.1 := by
          split at hkept
          · obtain ⟨-, heq⟩ := Option.ite_none_right_eq_some.mp hkept
            exact (congrArg Prod.fst (Option.some.inj heq)).symm
          · cases hkept
        rw [List.map_cons, hname]
        exact ih.cons_cons entry.1

theorem ModuleObject.lookup_reverse_values {m : ModuleObject}
    (hdistinct : (m.attributes.map Prod.fst).Nodup) (name : String) (v : Value) :
    (m.values isConstantName).reverse.lookup name = some v ↔ m.DefinesConstant name v := by
  have hnames := hdistinct.sublist (m.names_values_sublist isConstantName)
  rw [← Mapping.get?_ofList, Mapping.get?_eq_some_iff, Mapping.toList_ofList hnames,
    mem_values_iff_definesConstant]

theorem lastDefines_concat (others : List ModuleObject) (last : ModuleObject) (name : String)
    (v : Value) :
    LastDefines (others ++ [last]) name v ↔
      last.DefinesConstant name v ∨
        (∀ w, ¬last.DefinesConstant name w) ∧ LastDefines others name v := by
  constructor
  · rintro ⟨before, m, after, hmodules, hdefines, hafter⟩
    rcases List.eq_nil_or_concat' after with rfl | ⟨middle, final, rfl⟩
    · obtain ⟨-, hlast⟩ := List.append_inj' hmodules rfl
      cases hlast
      exact Or.inl hdefines
    · rw [← List.cons_append, ← List.append_assoc] at hmodules
      obtain ⟨hothers, hlast⟩ := List.append_inj' hmodules rfl
      cases hlast
      refine Or.inr ⟨hafter _ (by simp), before, m, middle, hothers, hdefines, ?_⟩
      exact fun other hother => hafter other (List.mem_append_left _ hother)
  · rintro (hdefines | ⟨hnone, before, m, after, rfl, hdefines, hafter⟩)
    · exact ⟨others, last, [], rfl, hdefines, fun _ hother => absurd hother List.not_mem_nil⟩
    · refine ⟨before, m, after ++ [last], by simp, hdefines, fun other hother => ?_⟩
      rcases List.mem_append.mp hother with hmem | hmem
      · exact hafter other hmem
      · exact List.mem_singleton.mp hmem ▸ hnone

theorem exists_lastDefines_iff (modules : List ModuleObject) (name : String) :
    (∃ v, LastDefines modules name v) ↔ ∃ m ∈ modules, ∃ v, m.DefinesConstant name v := by
  induction modules using List.reverseRecOn with
  | nil =>
      constructor
      · rintro ⟨v, before, m, after, hmodules, -⟩
        simp at hmodules
      · rintro ⟨m, hm, -⟩
        cases hm
  | append_singleton others last ih =>
      simp only [lastDefines_concat, exists_or, exists_and_left, ih, List.mem_append,
        List.mem_singleton, or_and_right, exists_eq_left]
      constructor
      · rintro (hlast | ⟨-, hothers⟩)
        · exact Or.inr hlast
        · exact Or.inl hothers
      · intro h
        by_cases hlast : ∃ v, last.DefinesConstant name v
        · exact Or.inl hlast
        · exact Or.inr ⟨not_exists.mp hlast, h.resolve_right hlast⟩

theorem get?_writtenConstants {modules : List ModuleObject}
    (hdistinct : ∀ m ∈ modules, (m.attributes.map Prod.fst).Nodup) (name : String) (v : Value) :
    (Mapping.ofList (modules.flatMap fun m => m.values isConstantName)).get? name = some v ↔
      LastDefines modules name v := by
  -- From the end, since the last module with a constant of the name decides.
  induction modules using List.reverseRecOn with
  | nil =>
      constructor
      · intro h
        cases h
      · rintro ⟨before, m, after, hmodules, -⟩
        simp at hmodules
  | append_singleton others last ih =>
      rw [List.forall_mem_append, List.forall_mem_singleton] at hdistinct
      obtain ⟨hothers, hlast⟩ := hdistinct
      have hdefines := ModuleObject.lookup_reverse_values hlast name
      rw [List.flatMap_append, List.flatMap_singleton, Mapping.ofList, ← Mapping.update_update,
        ← Mapping.ofList, Mapping.get?_update, Option.or_eq_some_iff, hdefines, ih hothers,
        lastDefines_concat, Option.eq_none_iff_forall_ne_some]
      simp only [ne_eq, hdefines]

theorem names_sortedConstants (constants : Mapping Value) :
    (sortedConstants constants).names.Pairwise fun a b => codePoints a < codePoints b := by
  have hsorted := (inNameOrder_mergeSort Prod.fst constants.toList).sorted
  have hnames : (sortedConstants constants).names.Pairwise
      fun a b => codePoints a ≤ codePoints b := by
    show ((sortedConstants constants).toList.map Prod.fst).Pairwise _
    rw [toList_sortedConstants]
    exact List.pairwise_map.mpr hsorted
  refine (hnames.and (sortedConstants constants).nodup_names).imp ?_
  rintro a b ⟨hle, hne⟩
  rw [← not_le]
  intro hge
  exact hne (codePoints_injective (le_antisymm hle hge))

theorem mem_userConstants {modules : List ModuleObject}
    (hdistinct : ∀ m ∈ modules, (m.attributes.map Prod.fst).Nodup) (name : String) (v : Value) :
    (name, v) ∈ (userConstants modules).toList ↔ LastDefines modules name v := by
  rw [userConstants_eq, toList_sortedConstants, List.mem_mergeSort, ← Mapping.get?_eq_some_iff,
    get?_writtenConstants hdistinct]

section Revalued

variable (change : String → Value → Value)

/-- What a module holds under a name, the value of a constant replaced. -/
def revalued (name : String) (o : Object) : Object :=
  match o.constant? with
  | some v => if isConstantName name then .value (change name v) else o
  | none => o

def ModuleObject.withConstants (m : ModuleObject) : ModuleObject :=
  { m with attributes := m.attributes.map fun entry => (entry.1, revalued change entry.1 entry.2) }

/-- A program with other values for the constants of its modules. -/
def Program.withConstants (p : Program) : Program :=
  { p with modules := p.modules.map (ModuleObject.withConstants change) }

variable {change}

theorem revalued_of_not {name : String} (h : isConstantName name = false) (o : Object) :
    revalued change name o = o := by
  rw [revalued]
  cases o.constant? with
  | none => rfl
  | some v => exact if_neg (by rw [h]; exact Bool.false_ne_true)

variable (change) in
theorem revalued_eq_self_or (name : String) (o : Object) :
    revalued change name o = o ∨
      ∃ v w, o.constant? = some v ∧ revalued change name o = .value w := by
  rw [revalued]
  cases o.constant? with
  | none => exact Or.inl rfl
  | some v =>
      by_cases hname : isConstantName name = true
      · exact Or.inr ⟨v, _, rfl, if_pos hname⟩
      · exact Or.inl (if_neg hname)

theorem lookup_map_entries (f : String → Object → Object) (entries : List (String × Object))
    (name : String) :
    (entries.map fun entry => (entry.1, f entry.1 entry.2)).lookup name =
      (entries.lookup name).map (f name) := by
  induction entries with
  | nil => rfl
  | cons entry others ih =>
      rw [List.map_cons, lookup_cons_eq_ite, lookup_cons_eq_ite, ih]
      by_cases hname : name = entry.1
      · rw [if_pos hname, if_pos hname, Option.map_some, hname]
      · rw [if_neg hname, if_neg hname]

namespace ModuleObject

variable (m : ModuleObject)

theorem ownAttribute?_withConstants (name : String) :
    ownAttribute? (m.withConstants change).attributes name =
      (ownAttribute? m.attributes name).map (revalued change name) := by
  rw [ownAttribute?, withConstants, ← List.map_reverse, lookup_map_entries, ownAttribute?]

/-- What a module is seen to have under a name, the value of a constant replaced. Where the module
answers instead of its attributes, nothing is. -/
def seen (change : String → Value → Value) (name : String) (o : Object) : Object :=
  if (ownAttribute? m.attributes name).isSome && !typeAnswered.contains name then
    revalued change name o
  else o

theorem member?_withConstants (name : String) :
    (m.withConstants change).member? name = (m.member? name).map (Option.map (m.seen change name)) := by
  have hseen : ((ownAttribute? m.attributes name).isSome && !typeAnswered.contains name) = false →
      m.seen change name = id := by
    intro h
    funext o
    rw [seen, h]
    rfl
  have hanswer : m.seen change name = id →
      m.answer name = (m.answer name).map (Option.map (m.seen change name)) := by
    intro h
    rw [h, Option.map_id]
    cases m.answer name with
    | error e => rfl
    | ok o => rfl
  rw [member?, ownAttribute?_withConstants, member?]
  cases hown : ownAttribute? m.attributes name with
  | none => exact hanswer (hseen (by rw [hown]; rfl))
  | some o =>
      cases htyped : typeAnswered.contains name with
      | true => exact hanswer (hseen (by rw [htyped, Bool.not_true, Bool.and_false]))
      | false =>
          have hrevalued : m.seen change name o = revalued change name o := by
            rw [seen, hown, htyped]
            rfl
          exact congrArg (fun o => Except.ok (some o)) hrevalued.symm

theorem names_withConstants : (m.withConstants change).names = m.names := by
  have hnames : (m.withConstants change).attributes.map Prod.fst = m.attributes.map Prod.fst := by
    rw [withConstants, List.map_map]
    rfl
  rw [names, hnames, names]
  rfl

theorem memberNamed_withConstants (listed : Value) :
    (m.withConstants change).memberNamed listed = (m.memberNamed listed).map
      (Option.map fun entry => (entry.1, m.seen change entry.1 entry.2)) := by
  rw [memberNamed, memberNamed]
  cases listed.text? with
  | none => rfl
  | some name =>
      dsimp only
      rw [member?_withConstants]
      cases m.member? name with
      | error e => rfl
      | ok member =>
          cases member with
          | none => rfl
          | some o => rfl

theorem members_withConstants :
    (m.withConstants change).members =
      m.members.map (List.map fun entry => (entry.1, m.seen change entry.1 entry.2)) := by
  have hnamed : (m.withConstants change).memberNamed = fun listed => (m.memberNamed listed).map
      (Option.map fun entry => (entry.1, m.seen change entry.1 entry.2)) :=
    funext m.memberNamed_withConstants
  rw [members, names_withConstants, hnamed, members]
  cases m.names with
  | error e => rfl
  | ok names =>
      change (names.mapM _ >>= fun found => _) = ((names.mapM m.memberNamed >>= fun found => _).map _)
      rw [mapM_map_eq]
      cases names.mapM m.memberNamed with
      | error e => rfl
      | ok found =>
          refine congrArg Except.ok ?_
          rw [List.reduceOption_map]
          exact Mapping.toList_ofList_map (m.seen change) found.reduceOption

theorem found_withConstants :
    (m.withConstants change).found =
      m.found.map fun entry => (entry.1, m.seen change entry.1 entry.2) := by
  rw [found, members_withConstants, found]
  cases m.members with
  | error e => rfl
  | ok members => rfl

theorem listingFault?_withConstants : (m.withConstants change).listingFault? = m.listingFault? := by
  rw [ModuleObject.listingFault?, members_withConstants, ModuleObject.listingFault?]
  cases m.members with
  | error e => rfl
  | ok members => rfl

theorem filterMap_found_withConstants {β : Type} {find : String × Object → Option β}
    (h : ∀ name o v, o.constant? = some v → find (name, o) = none) :
    (m.withConstants change).found.filterMap find = m.found.filterMap find := by
  rw [found_withConstants, List.filterMap_map]
  refine List.filterMap_congr fun entry _ => ?_
  obtain ⟨name, o⟩ := entry
  change find (name, m.seen change name o) = find (name, o)
  rw [seen]
  split
  · rcases revalued_eq_self_or change name o with hsame | ⟨v, w, hv, hw⟩
    · rw [hsame]
    · rw [hw, h name _ w rfl, h name o v hv]
  · rfl

theorem isLoaded_withConstants : (m.withConstants change).isLoaded = m.isLoaded := by
  have hsame : revalued change "__loader__" = id :=
    funext fun o => revalued_of_not (by decide) o
  rw [isLoaded, ownAttribute?_withConstants m, hsame, Option.map_id, isLoaded]
  rfl

end ModuleObject

theorem sortedTitles_withConstants (p : Program) (modules : List ModuleObject) :
    sortedTitles (p.withConstants change) (modules.map (ModuleObject.withConstants change)) =
      sortedTitles p modules := by
  rw [sortedTitles, distinctTitles, List.foldl_map]
  rfl

namespace Program

variable (p : Program)

theorem classesOf_withConstants (m : ModuleObject) :
    (p.withConstants change).classesOf (m.withConstants change) = p.classesOf m := by
  have hall : (p.withConstants change).allClassesOf (m.withConstants change) = p.allClassesOf m := by
    refine m.filterMap_found_withConstants fun name o v hconstant => ?_
    cases o with
    | klass number => cases hconstant
    | _ => rfl
  rw [classesOf, hall]
  rfl

theorem module?_withConstants (name : String) :
    (p.withConstants change).module? name =
      (p.module? name).map (ModuleObject.withConstants change) := by
  rw [module?, withConstants, ← List.map_reverse, List.find?_map]
  rfl

theorem moduleCalled_withConstants (told : Value) :
    (p.withConstants change).moduleCalled told =
      (p.moduleCalled told).map (Option.map (ModuleObject.withConstants change)) := by
  rw [moduleCalled, moduleCalled]
  cases told.unhashable? with
  | some typeName => rfl
  | none =>
      cases told.text? with
      | none => rfl
      | some name => exact congrArg Except.ok (p.module?_withConstants name)

theorem source?_withConstants (file : String) :
    (p.withConstants change).source? file = p.source? file := by
  have hmodules : ∀ modules : List ModuleObject,
      (modules.map (ModuleObject.withConstants change)).findSome?
          (fun m => if m.sourceFile = some file then m.source else none) =
        modules.findSome? (fun m => if m.sourceFile = some file then m.source else none) := by
    intro modules
    rw [List.findSome?_map]
    rfl
  rw [source?, source?, List.reverse_append, List.reverse_append, List.findSome?_append,
    List.findSome?_append, withConstants, ← List.map_reverse, hmodules]

theorem sourceOf_withConstants (module : Except String (Option ModuleObject)) (file : String) :
    (p.withConstants change).sourceOf
        (module.map (Option.map (ModuleObject.withConstants change))) file =
      p.sourceOf module file := by
  have hloaded : ∀ module : Option ModuleObject,
      (module.map (ModuleObject.withConstants change)).any ModuleObject.isLoaded =
        module.any ModuleObject.isLoaded := by
    intro module
    cases module with
    | none => rfl
    | some m => exact m.isLoaded_withConstants
  cases module with
  | error reason => rfl
  | ok module =>
      simp only [sourceOf, source?_withConstants, Except.map, bind, Except.bind, hloaded]

theorem moduleOf_withConstants (c : ClassObject) :
    (p.withConstants change).moduleOf c =
      (p.moduleOf c).map (Option.map (ModuleObject.withConstants change)) := by
  rw [moduleOf, moduleOf]
  cases c.module with
  | value v => exact p.moduleCalled_withConstants v
  | _ => rfl

theorem classFile_withConstants (c : ClassObject) (module : Option ModuleObject) :
    (p.withConstants change).classFile c (module.map (ModuleObject.withConstants change)) =
      p.classFile c module := by
  cases module with
  | none => rfl
  | some m => rfl

theorem classLocation_withConstants (c : ClassObject) :
    (p.withConstants change).classLocation c = p.classLocation c := by
  rw [classLocation, moduleOf_withConstants, classLocation]
  cases p.moduleOf c with
  | error reason => rfl
  | ok module =>
      have hsource : ∀ file, (p.withConstants change).sourceOf
          (.ok (module.map (ModuleObject.withConstants change))) file = p.sourceOf (.ok module) file :=
        p.sourceOf_withConstants (.ok module)
      simp only [Except.map, Except.mapError, classFile_withConstants, hsource, bind, Except.bind]

theorem fault_lookAtClass_withConstants (c : ClassObject) :
    ((p.withConstants change).lookAtClass c).fault = none ↔ (p.lookAtClass c).fault = none := by
  have hplace : (p.withConstants change).lookAtPlace c = p.lookAtPlace c := by
    rw [lookAtPlace, classLocation_withConstants, lookAtPlace]
  rw [fault_lookAtClass_eq_none_iff, fault_lookAtClass_eq_none_iff, hplace]
  rfl

/-- The constants have no part in what makes an inspection fail. -/
theorem fault_look_withConstants (modules : List ModuleObject) (withHost : Bool) :
    ((p.withConstants change).look (modules.map (ModuleObject.withConstants change))
        withHost).fault = none ↔ (p.look modules withHost).fault = none := by
  have hclasses : (p.withConstants change).allClassesOf (p.withConstants change).host =
      p.allClassesOf p.host := rfl
  simp only [fault_look_eq_none_iff, fault_lookAtModule_eq_none_iff, List.forall_mem_map,
    sortedTitles_withConstants, classesOf_withConstants,
    ModuleObject.listingFault?_withConstants, fault_lookAtClass_withConstants, hclasses]
  rfl

theorem importModule_withConstants {name : String} {m : ModuleObject}
    (h : p.importModule name = .ok m) :
    (p.withConstants change).importModule name = .ok (m.withConstants change) := by
  unfold importModule at h ⊢
  split at h
  · cases h
  · split at h
    · cases h
    · rename_i hempty hrelative
      rw [if_neg hempty, if_neg hrelative, module?_withConstants]
      split at h
      · rename_i found hfound
        cases h
        rw [hfound]
        rfl
      · cases h

theorem importAll_withConstants {names : List String} {modules : List ModuleObject}
    (h : p.importAll names = .ok modules) :
    (p.withConstants change).importAll names =
      .ok (modules.map (ModuleObject.withConstants change)) := by
  rw [importAll_eq_ok_iff] at h ⊢
  rw [List.forall₂_map_right_iff]
  exact h.imp fun _ _ hm => p.importModule_withConstants hm

end Program

end Revalued

namespace Program

/-- A class can be placed: what its methods that are written in the program say their modules are can
be looked up, and looking for the class itself fails in no unforeseen way. -/
structure Placeable (p : Program) (c : ClassObject) : Prop where
  methods : ∀ entry ∈ methodsIn (p.ancestry c), entry.2.make = .program →
    entry.2.module.unhashable? = none
  place : ∀ e, p.classLocation c ≠ .error (.broken e)

/-- What has to be in order for an inspection to succeed: what the modules say they are called can be
looked up and sorted, the members of the modules, and of the host if it is inspected too, can be
listed, and their classes can be placed. -/
structure Inspectable (p : Program) (modules : List ModuleObject) (withHost : Bool) : Prop where
  named : ∀ m ∈ modules, ∀ v, m.title = .value v → v.unhashable? = none
  sorted : ∃ found, sortedTitles p modules = .ok found
  listed : ∀ m ∈ modules, ∃ members, m.members = .ok members
  placed : ∀ m ∈ modules, ∀ c ∈ p.classesOf m, p.Placeable c
  host : withHost = true → (∃ members, p.host.members = .ok members) ∧
    ∀ c ∈ p.allClassesOf p.host, p.Placeable c

variable {p : Program} {names : List String} {modules : List ModuleObject} {withHost : Bool}

theorem titleFault?_eq_none_iff (m : ModuleObject) :
    titleFault? m = none ↔ ∀ v, m.title = .value v → v.unhashable? = none := by
  rw [titleFault?]
  cases m.title with
  | value v => simp
  | _ => simp

theorem listingFault?_eq_none_iff (m : ModuleObject) :
    m.listingFault? = none ↔ ∃ members, m.members = .ok members := by
  rw [ModuleObject.listingFault?]
  cases m.members with
  | ok members => simp
  | error e => simp

theorem fault_lookAtClass_eq_none_iff_placeable (c : ClassObject) :
    (p.lookAtClass c).fault = none ↔ p.Placeable c := by
  have hmethod : ∀ f, (p.lookAtMethod f).fault = none ↔
      (f.make = .program → f.module.unhashable? = none) := by
    intro f
    rw [lookAtMethod]
    cases f.make with
    | program => simp
    | _ => simp
  have hplace : (p.lookAtPlace c).fault = none ↔
      ∀ e, p.classLocation c ≠ .error (.broken e) := by
    rw [lookAtPlace]
    cases p.classLocation c with
    | ok location => simp
    | error reason =>
        cases reason with
        | unavailable why => simp
        | broken e => simp
  rw [fault_lookAtClass_eq_none_iff, hplace]
  simp only [hmethod]
  exact ⟨fun h => ⟨h.1, h.2⟩, fun h => ⟨h.methods, h.place⟩⟩

theorem inspectable_iff :
    p.Inspectable modules withHost ↔ (p.look modules withHost).fault = none := by
  simp only [fault_look_eq_none_iff, fault_lookAtModule_eq_none_iff, titleFault?_eq_none_iff,
    listingFault?_eq_none_iff, fault_lookAtClass_eq_none_iff_placeable]
  constructor
  · intro h
    exact ⟨h.named, fun m hm => ⟨h.listed m hm, h.placed m hm⟩, h.host, h.sorted⟩
  · rintro ⟨hnamed, hmodules, hhost, hsorted⟩
    exact ⟨hnamed, hsorted, fun m hm => (hmodules m hm).1, fun m hm => (hmodules m hm).2, hhost⟩

theorem inspectNames_eq_ok_iff (himport : p.importAll names = .ok modules) (found : Findings) :
    p.inspectNames names withHost = .ok found ↔
      p.Inspectable modules withHost ∧ found = p.inspect modules withHost := by
  rw [inspectable_iff]
  simp only [inspectNames, himport]
  cases (p.look modules withHost).fault with
  | some e => simp
  | none => simp [eq_comm]

theorem exists_inspectNames_iff (himport : p.importAll names = .ok modules) :
    (∃ found, p.inspectNames names withHost = .ok found) ↔ p.Inspectable modules withHost := by
  simp only [inspectNames_eq_ok_iff himport, exists_and_left, exists_eq, and_true]

theorem inspectable_withConstants_iff (change : String → Value → Value) :
    (p.withConstants change).Inspectable (modules.map (ModuleObject.withConstants change))
        withHost ↔ p.Inspectable modules withHost := by
  rw [inspectable_iff, inspectable_iff, fault_look_withConstants]

theorem lookup_constants_inspect (p : Program) (modules : List ModuleObject) (withHost : Bool) :
    (p.inspect modules withHost).constants.lookup userPartition = some (userConstants modules) := by
  cases withHost with
  | false => rfl
  | true => rfl

theorem exists_definesConstant_iff (modules : List ModuleObject) (name : String) :
    (∃ m ∈ modules, ∃ v, m.DefinesConstant name v) ↔
      isConstantName name = true ∧ ∃ m ∈ modules, ∃ o, (name, o) ∈ m.attributes ∧ ¬o.IsCode := by
  constructor
  · rintro ⟨m, hm, v, hname, o, ho, hcode, -⟩
    exact ⟨hname, m, hm, o, ho, hcode⟩
  · rintro ⟨hname, m, hm, o, ho, hcode⟩
    obtain ⟨v, hv⟩ := Object.exists_isValue hcode
    exact ⟨m, hm, v, hname, o, ho, hcode, hv⟩

end Program

def swabFunction : FunctionObject where
  name := "swab"
  module := .str "deck"

/-- A module with three constants and a function. One of the constants wraps the function as a class
method. -/
def deckModule : ModuleObject where
  name := "deck"
  title := .value (.str "deck")
  attributes := [("WIDTH", .value (.int 4)), ("ZONE", .value (.str "aft")),
    ("SWAB", .classMethod swabFunction), ("swab", .function swabFunction)]

/-- A module whose constant is of another type than that of the other module, and which has
something that can be called under the name of the other constant. -/
def hullModule : ModuleObject where
  name := "hull"
  title := .value (.str "hull")
  attributes :=
    [("ZONE", .callable { number := 5, typeName := "partial", text := "functools.partial(swab)" }),
      ("WIDTH", .value (.str "broad"))]

theorem plain_deckModule : deckModule.Plain :=
  ⟨rfl, by decide, by decide⟩

theorem plain_hullModule : hullModule.Plain :=
  ⟨rfl, by decide, by decide⟩

def shipProgram : Program :=
  { Program.bare with modules := [deckModule, hullModule] }

theorem plain_shipHost : shipProgram.host.Plain :=
  ⟨rfl, by decide, by decide⟩

namespace Program

theorem importAll_ship :
    shipProgram.importAll ["deck", "hull"] = .ok [deckModule, hullModule] := by
  rw [importAll_eq_ok_iff]
  simp [importModule, module?, shipProgram, deckModule, hullModule]

theorem inspectable_ship : shipProgram.Inspectable [deckModule, hullModule] true := by
  have htext : ∀ m ∈ [deckModule, hullModule], m.title.text?.isSome = true := by decide +kernel
  have hmodules : ∀ m ∈ [deckModule, hullModule], titleFault? m = none ∧
      m.listingFault? = none := by
    rw [List.forall_mem_cons, List.forall_mem_singleton]
    exact ⟨⟨rfl, plain_deckModule.listingFault?⟩, rfl, plain_hullModule.listingFault?⟩
  rw [inspectable_iff]
  exact fault_look_of_placed (by decide +kernel) (by decide +kernel) plain_shipHost.listingFault?
    hmodules
    (exists_sortedTitles _ fun m hm n hn _ => Object.comparable_of_text (htext m hm) (htext n hn))
    true

theorem importAll_unlistable : unlistableProgram.importAll ["m"] = .ok [unlistableModule "m"] := by
  rw [importAll_eq_ok_iff]
  simp [importModule, module?, unlistableProgram, unlistableModule]

end Program

end SymbolReference

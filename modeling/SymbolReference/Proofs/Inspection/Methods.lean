import Mathlib.Data.List.Forall2
import SymbolReference.Proofs.Inspection.Findings
import SymbolReference.Proofs.Outcome

namespace SymbolReference

/-- A definition that some classes, searched in order, have for a name: that of the first of them
which defines the name. -/
def FirstDefines (ancestry : List ClassObject) (name : String) (o : Object) : Prop :=
  ∃ before c after, ancestry = before ++ c :: after ∧
    ownAttribute? c.attributes name = some o ∧ ∀ b ∈ before, name ∉ b.attributes.map Prod.fst

/-- A class shows the definition of a name. It does not when the name is not passed on, and it does
not show a function under a name for which it has an answer of its own, unless the function is one of
the host. -/
def ShowsDefinition (ancestry : List ClassObject) (name : String) : Object → Prop
  | .function f =>
    isWithheld ancestry name = false ∧ (f.make = .host ∨ hidesFunction ancestry name = false)
  | _ => isWithheld ancestry name = false

theorem attribute?_eq_some_iff (ancestry : List ClassObject) (name : String) (o : Object) :
    attribute? ancestry name = some o ↔ FirstDefines ancestry name o := by
  simp only [attribute?, List.findSome?_eq_some_iff, ownAttribute?_eq_none_iff, FirstDefines]

theorem mem_attributeNames_iff_firstDefines {ancestry : List ClassObject} {name : String} :
    name ∈ attributeNames ancestry ↔ ∃ o, FirstDefines ancestry name o := by
  have hnone : attribute? ancestry name = none ↔ name ∉ attributeNames ancestry := by
    simp only [attribute?, List.findSome?_eq_none_iff, ownAttribute?_eq_none_iff,
      mem_attributeNames, not_exists, not_and]
  simp only [← attribute?_eq_some_iff, ← Option.ne_none_iff_exists', ne_eq, hnone, not_not]

theorem method?_of_shows {ancestry : List ClassObject} {name : String} {o : Object}
    (h : FirstDefines ancestry name o) (hshows : ShowsDefinition ancestry name o) :
    method? ancestry name = o.methodFunction? := by
  rw [method?, (attribute?_eq_some_iff ancestry name o).mpr h]
  cases o with
  | function f =>
      have hseen : ¬f.make = .host → hidesFunction ancestry name = false :=
        hshows.2.resolve_left
      simpa [hshows.1, Object.methodFunction?] using hseen
  | _ =>
      have hpassed : isWithheld ancestry name = false := hshows
      simp [hpassed, Object.methodFunction?]

theorem method?_of_not_shows {ancestry : List ClassObject} {name : String} {o : Object}
    (h : FirstDefines ancestry name o) (hshows : ¬ShowsDefinition ancestry name o) :
    method? ancestry name = none := by
  rw [method?, (attribute?_eq_some_iff ancestry name o).mpr h]
  cases o with
  | function f =>
      by_cases hwithheld : isWithheld ancestry name = true
      · rw [if_pos hwithheld]
      · have hhidden : f.make ≠ .host ∧ hidesFunction ancestry name = true := by
          simpa [ShowsDefinition, hwithheld, not_or] using hshows
        simp [hwithheld, hhidden.1, hhidden.2]
  | _ =>
      have hwithheld : isWithheld ancestry name = true := by
        simpa [ShowsDefinition] using hshows
      simp [hwithheld]

theorem nodup_eraseDups (names : List String) : names.eraseDups.Nodup := by
  cases names with
  | nil => exact List.nodup_nil
  | cons name others =>
      rw [List.eraseDups_cons, List.nodup_cons]
      constructor
      · simp
      · exact nodup_eraseDups _
termination_by names.length
decreasing_by exact Nat.lt_succ_of_le (List.length_filter_le _ _)

theorem nodup_attributeNames (ancestry : List ClassObject) : (attributeNames ancestry).Nodup :=
  nodup_eraseDups _

/-- Distinct names are looked at once, so an entry of a name comes from the look at this name. -/
theorem filter_filterMap_named {β : Type} {f : String → Option β} {names : List String}
    (h : names.Nodup) {name : String} (hname : name ∈ names) :
    ((names.filterMap fun n => (f n).map fun b => (n, b)).filter fun entry => entry.1 = name) =
      ((f name).map fun b => (name, b)).toList := by
  have hlook : ∀ n, (((f n).map fun b => (n, b)).filter fun entry => entry.1 = name) =
      if n == name then (f n).map fun b => (n, b) else none := by
    intro n
    cases f n with
    | none => simp
    | some b => simp [Option.filter]
  rw [List.filter_filterMap]
  simp only [hlook]
  rw [← List.filterMap_filter, List.filter_beq, List.count_eq_one_of_mem h hname]
  cases hvalue : f name with
  | none => simp [hvalue]
  | some b => simp [hvalue]

theorem names_methodsIn (ancestry : List ClassObject) :
    (methodsIn ancestry).map Prod.fst =
      (attributeNames ancestry).filter fun name => (method? ancestry name).isSome := by
  rw [methodsIn, List.map_filterMap, ← List.filterMap_eq_filter]
  refine List.filterMap_congr fun name _ => ?_
  cases hmethod : method? ancestry name with
  | none => simp [hmethod, Option.guard]
  | some f => simp [hmethod, Option.guard]

/-- The methods of a symbol that have a given name. -/
def Symbol.methodsNamed (s : Symbol) (name : String) : List Symbol :=
  (symbolsOf (s.methods.getD [])).filter fun m => m.name = name

/-- A declared parameter stands for a parameter of a signature. A variadic one is marked by stars in
front of its name, and it may be omitted like one with a default. -/
structure SignatureParameter.DeclaredAs (q : SignatureParameter) (declared : Parameter) : Prop where
  name : declared.name =
    (if q.passing = .variadic then "*" else if q.passing = .variadicKeyword then "**" else "") ++
      q.name
  optional : declared.optional = true ↔
    q.default.isSome = true ∨ q.passing = .variadic ∨ q.passing = .variadicKeyword
  hasDefault : declared.hasDefault = q.default.isSome
  default : declared.default = q.default.getD .none
  byReference : declared.byReference = false

theorem SignatureParameter.declaredAs_declared (q : SignatureParameter) :
    q.DeclaredAs q.declared where
  name := by
    rw [declared]
    cases q.passing with
    | _ => rfl
  optional := by
    rw [declared]
    cases q.passing with
    | _ => simp
  hasDefault := rfl
  default := rfl
  byReference := rfl

theorem SignatureParameter.DeclaredAs.eq_declared {q : SignatureParameter} {declared : Parameter}
    (h : q.DeclaredAs declared) : declared = q.declared := by
  have hdeclared := q.declaredAs_declared
  obtain ⟨name, byReference, optional, hasDefault, default⟩ := declared
  rw [Parameter.mk.injEq]
  exact ⟨h.name.trans hdeclared.name.symm, h.byReference,
    Bool.eq_iff_iff.mpr (h.optional.trans hdeclared.optional.symm), h.hasDefault, h.default⟩

theorem eq_map_declared {signature : List SignatureParameter} {declared : List Parameter}
    (h : List.Forall₂ SignatureParameter.DeclaredAs signature declared) :
    declared = signature.map SignatureParameter.declared := by
  induction h with
  | nil => rfl
  | cons hfirst _ ih => rw [List.map_cons, hfirst.eq_declared, ih]

/-- A location is where a function of the program is written: the function knows a file and lines, and
the file has a source that is known under a name. What the function says its module is must be
something that can be looked up. -/
def WrittenAt (p : Program) (f : FunctionObject) (location : Location) : Prop :=
  f.make = .program ∧ f.module.unhashable? = none ∧
    ∃ file lines name source, f.file = some file ∧ file ≠ "" ∧ f.lines = some lines ∧
      sourceName? file = some name ∧ p.source? name = some source ∧
      location = { file := some name, startLine := some lines.1, endLine := some lines.2 }

/-- A symbol describes the method that a function makes of a class: it has the parameters of the
signature, if there is one, the location and the documentation of the function, the name of the class
as its owner, and is user-defined exactly if the function is written in one of the inspected
modules. -/
structure DescribesMethod (p : Program) (modules : List ModuleObject) (c : ClassObject)
    (f : FunctionObject) (m : Symbol) : Prop where
  kind : m.kind = .method
  owner : m.declaration.owner = some c.name
  parameters : List.Forall₂ SignatureParameter.DeclaredAs (f.signature.getD [])
    m.declaration.parameters
  location : ∀ location, m.declaration.location = some location ↔ WrittenAt p f location
  comment : ∀ comment, m.declaration.comment = some comment ↔
    ∃ text, f.documentation.text? = some text ∧ Text.allBlank text.toList = false ∧
      comment = String.ofList (Text.dedent text.toList)
  userDefined : m.userDefined = true ↔ f.make = .program ∧
    ∃ module ∈ modules, (Object.value f.module).same module.title = true

/-- A symbol reports the methods of a class by its order of search. -/
structure FollowsOrder (p : Program) (modules : List ModuleObject) (c : ClassObject) (s : Symbol) :
    Prop where
  name : s.name = c.name
  distinct : ((symbolsOf (s.methods.getD [])).map Symbol.name).Nodup
  method : ∀ name o f, FirstDefines (p.ancestry c) name o → ShowsDefinition (p.ancestry c) name o →
    o.methodFunction? = some f →
      ∃ m, s.methodsNamed name = [m] ∧ DescribesMethod p modules c f m
  hidden : ∀ name o, FirstDefines (p.ancestry c) name o →
    o.methodFunction? = none ∨ ¬ShowsDefinition (p.ancestry c) name o → s.methodsNamed name = []

namespace Program

variable (p : Program) (modules : List ModuleObject)

theorem moduleCalled_isOk_iff (told : Value) :
    (∃ module, p.moduleCalled told = .ok module) ↔ told.unhashable? = none := by
  rw [moduleCalled]
  cases told.unhashable? with
  | none => simp
  | some typeName => simp

theorem sourceOf_eq_ok_iff {module : Except String (Option ModuleObject)} {file name : String}
    {source : List (String × Int × Int)} :
    p.sourceOf module file = .ok (name, source) ↔
      (∃ m, module = .ok m) ∧ sourceName? file = some name ∧ p.source? name = some source := by
  rw [sourceOf]
  cases sourceName? file with
  | none => simp
  | some found =>
      rw [bind_eq_ok_iff]
      constructor
      · rintro ⟨m, hm, hsource⟩
        cases hfound : p.source? found with
        | none =>
            rw [hfound] at hsource
            cases hsource
        | some kept =>
            rw [hfound] at hsource
            cases hsource
            exact ⟨⟨m, hm⟩, rfl, hfound⟩
      · rintro ⟨⟨m, hm⟩, hname, hsource⟩
        cases hname
        exact ⟨m, hm, by rw [hsource]; rfl⟩

theorem functionLocation_eq_ok_iff {f : FunctionObject} {location : Location} :
    p.functionLocation f = .ok location ↔ WrittenAt p f location := by
  rw [functionLocation, WrittenAt]
  cases f.make with
  | program =>
      dsimp only
      split
      · rename_i file lines hfile hlines
        obtain ⟨hfile, hnonempty⟩ := Option.filter_eq_some_iff.mp hfile
        have hne : file ≠ "" := by simpa using hnonempty
        rw [← p.moduleCalled_isOk_iff]
        constructor
        · intro h
          cases hsource : p.sourceOf (p.moduleCalled f.module) file with
          | error e =>
              rw [hsource] at h
              cases h
          | ok found =>
              rw [hsource] at h
              cases h
              obtain ⟨hmodule, hname, hkept⟩ := p.sourceOf_eq_ok_iff.mp hsource
              exact ⟨rfl, hmodule, file, lines, found.1, found.2, hfile, hne, hlines, hname, hkept,
                rfl⟩
        · rintro ⟨-, hmodule, other, others, name, source, hother, -, hothers, hname, hkept, rfl⟩
          rw [hfile] at hother
          rw [hlines] at hothers
          cases hother
          cases hothers
          rw [p.sourceOf_eq_ok_iff.mpr ⟨hmodule, hname, hkept⟩]
          rfl
      · rename_i hunknown
        constructor
        · intro h
          obtain ⟨_, -, hthrow⟩ := bind_eq_ok_iff.mp h
          cases hthrow
        · rintro ⟨-, -, file, lines, name, source, hfile, hne, hlines, -⟩
          have hkept : f.file.filter (fun name => !name.isEmpty) = some file :=
            Option.filter_eq_some_iff.mpr ⟨hfile, by simpa using hne⟩
          exact absurd hlines (hunknown file lines hkept)
  | _ => simp

theorem documentationOf_eq_some_iff {v : Value} {comment : String} :
    documentationOf v = some comment ↔ ∃ text, v.text? = some text ∧
      Text.allBlank text.toList = false ∧ comment = String.ofList (Text.dedent text.toList) := by
  rw [documentationOf]
  cases v.text? with
  | none => simp
  | some text =>
      cases hblank : Text.allBlank text.toList with
      | true => simp [hblank]
      | false =>
          rw [eq_comm]
          simp [hblank]

theorem parameters_eq_map_declared (f : FunctionObject) :
    f.parameters.toOption.getD [] = (f.signature.getD []).map SignatureParameter.declared := by
  rw [FunctionObject.parameters]
  cases f.signature with
  | none => rfl
  | some signature => rfl

theorem describesMethod_methodSymbol (c : ClassObject) (name : String) (f : FunctionObject) :
    DescribesMethod p modules c f (p.methodSymbol (titles modules) c (name, f)) where
  kind := rfl
  owner := rfl
  parameters := by
    change List.Forall₂ _ _ (f.parameters.toOption.getD [])
    rw [parameters_eq_map_declared, List.forall₂_map_right_iff, List.forall₂_same]
    exact fun q _ => q.declaredAs_declared
  location location := by
    rw [← functionLocation_eq_ok_iff]
    exact toOption_eq_some_iff
  comment _ := documentationOf_eq_some_iff
  userDefined := by
    change f.isFrom (titles modules) = true ↔ _
    simp [FunctionObject.isFrom, titles]

theorem methodsNamed_classSymbol (userModules : List Object) (userDefined : Bool) (c : ClassObject)
    {name : String} (h : name ∈ attributeNames (p.ancestry c)) :
    (p.classSymbol userModules userDefined c).methodsNamed name =
      ((method? (p.ancestry c) name).map fun f =>
        p.methodSymbol userModules c (name, f)).toList := by
  have hnamed : ((methodsIn (p.ancestry c)).filter fun entry => entry.1 = name) =
      ((method? (p.ancestry c) name).map fun f => (name, f)).toList :=
    filter_filterMap_named (nodup_attributeNames _) h
  rw [Symbol.methodsNamed, methods_classSymbol, Option.getD_some, symbolsOf_map_symbol,
    List.filter_map]
  have hsame : ((fun m : Symbol => decide (m.name = name)) ∘ p.methodSymbol userModules c) =
      fun entry => decide (entry.1 = name) := rfl
  rw [hsame, hnamed]
  cases method? (p.ancestry c) name with
  | none => rfl
  | some f => rfl

theorem followsOrder_classSymbol (userDefined : Bool) (c : ClassObject) :
    FollowsOrder p modules c (p.classSymbol (titles modules) userDefined c) where
  name := rfl
  distinct := by
    rw [methods_classSymbol, Option.getD_some, symbolsOf_map_symbol, List.map_map]
    have hnames : Symbol.name ∘ p.methodSymbol (titles modules) c = Prod.fst := rfl
    rw [hnames, names_methodsIn]
    exact (nodup_attributeNames _).filter _
  method name o f hfirst hshows hfunction := by
    rw [p.methodsNamed_classSymbol _ _ c (mem_attributeNames_iff_firstDefines.mpr ⟨o, hfirst⟩),
      method?_of_shows hfirst hshows, hfunction]
    exact ⟨_, rfl, p.describesMethod_methodSymbol modules c name f⟩
  hidden name o hfirst hhidden := by
    have hmethod : method? (p.ancestry c) name = none := by
      by_cases hshows : ShowsDefinition (p.ancestry c) name o
      · rw [method?_of_shows hfirst hshows]
        exact hhidden.resolve_right (not_not_intro hshows)
      · exact method?_of_not_shows hfirst hshows
    rw [p.methodsNamed_classSymbol _ _ c (mem_attributeNames_iff_firstDefines.mpr ⟨o, hfirst⟩),
      hmethod]
    rfl

end Program

def waterClass : ClassObject where
  name := "Water"
  fullName := "Water"
  order := [1, Root.number]
  attributes := [("flow", .function { name := "flow", module := .str "sea" }),
    ("depth", .function { name := "depth", module := .str "sea" })]

/-- A class of water with a number in place of a method. -/
def riverClass : ClassObject where
  name := "River"
  fullName := "River"
  order := [2, 1, Root.number]
  attributes := [("depth", .value (.int 3))]

def flowFunction : FunctionObject where
  name := "flow"
  module := .str "m"
  documentation := .str "Out of the basin."
  signature := some [{ name := "speed", default := some (.int 2) },
    { name := "gates", passing := .variadic }]
  file := some "m.py"
  lines := some (4, 6)

/-- A class of water with a method of its own. -/
def basinClass : ClassObject where
  name := "Basin"
  fullName := "Basin"
  order := [3, 1, Root.number]
  attributes := [("flow", .staticMethod flowFunction)]

/-- A class that is both, with nothing of its own. -/
def lakeClass : ClassObject where
  name := "Lake"
  fullName := "Lake"
  order := [4, 2, 3, 1, Root.number]
  attributes := [("__module__", .value (.str "m"))]

def lakeModule : ModuleObject where
  name := "m"
  title := .value (.str "m")
  file := some (.value (.str "m.py"))
  sourceFile := some "m.py"
  source := some []
  attributes := [("Lake", .klass 4)]

theorem plain_lakeModule : lakeModule.Plain :=
  ⟨rfl, by decide, by decide⟩

def lakeProgram : Program :=
  { Program.bare with
    classes := [Root.root, waterClass, riverClass, basinClass, lakeClass]
    modules := [lakeModule] }

theorem shownClasses_lake : lakeProgram.shownClasses [lakeModule] false true = [lakeClass] := by
  have hall : lakeProgram.allClassesOf lakeModule = [lakeClass] := by
    rw [Program.allClassesOf, ModuleObject.found_of_members plain_lakeModule.members, lakeModule,
      List.mergeSort_singleton]
    rfl
  have hown : lakeProgram.classesOf lakeModule = [lakeClass] := by
    have howns : lakeModule.owns lakeClass.module = true := by decide +kernel
    rw [Program.classesOf, hall, List.filter_singleton, howns]
    rfl
  rw [Program.shownClasses, List.flatMap_singleton, hown]
  rfl

end SymbolReference

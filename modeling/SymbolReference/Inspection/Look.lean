import SymbolReference.Inspection.Inspect

/-!
An inspection looks at the modules one after the other, at the functions of each before its classes,
and at the methods of a class before the class. Gaps that are noticed before a fault stay noticed.
-/

namespace SymbolReference

/-- What may not be known about an object. -/
inductive Unknown where
  | signature
  | source
deriving Repr, DecidableEq

/-- Something that is not known about an object, and why. -/
structure Gap where
  unknown : Unknown
  symbol : String
  reason : String
deriving Repr, DecidableEq

/-- What comes up while something is looked at. -/
structure Look where
  gaps : List Gap := []
  fault : Option ObjectError := none
deriving Repr, DecidableEq

namespace Look

/-- What comes up while several things are looked at. The first fault ends it. -/
def all : List Look → Look
  | [] => {}
  | l :: others =>
    match l.fault with
    | some _ => l
    | none => { gaps := l.gaps ++ (all others).gaps, fault := (all others).fault }

def ofFault? (fault : Option ObjectError) : Look := { fault }

end Look

/-- The gap of something that may not be known. -/
def gapOf {α : Type} (unknown : Unknown) (symbol : String) : Except String α → List Gap
  | .ok _ => []
  | .error reason => [{ unknown, symbol, reason }]

def ModuleObject.listingFault? (m : ModuleObject) : Option ObjectError :=
  match m.members with
  | .ok _ => none
  | .error e => some e

namespace Program

def lookAtFunction (p : Program) (f : FunctionObject) : Look where
  gaps := gapOf .signature f.name f.parameters ++ gapOf .source f.name (p.functionLocation f)

/-- A look at a method, whose module must be something that can be looked up. -/
def lookAtMethod (p : Program) (f : FunctionObject) : Look where
  gaps := (p.lookAtFunction f).gaps
  fault :=
    match f.make with
    | .program => f.module.unhashable?.map ObjectError.unhashable
    | _ => none

def lookAtPlace (p : Program) (c : ClassObject) : Look :=
  match p.classLocation c with
  | .ok _ => {}
  | .error (.unavailable reason) => { gaps := [{ unknown := .source, symbol := c.name, reason }] }
  | .error (.broken e) => { fault := some e }

def lookAtClass (p : Program) (c : ClassObject) : Look :=
  Look.all ((methodsIn (p.ancestry c)).map (fun entry => p.lookAtMethod entry.2) ++
    [p.lookAtPlace c])

def lookAtModule (p : Program) (m : ModuleObject) (functions : List FunctionObject)
    (classes : List ClassObject) : Look :=
  Look.all (Look.ofFault? m.listingFault? :: functions.map p.lookAtFunction ++
    classes.map p.lookAtClass)

end Program

/-- What is wrong with noting down the name of a module. -/
def titleFault? (m : ModuleObject) : Option ObjectError :=
  match m.title with
  | .value v => v.unhashable?.map ObjectError.unhashable
  | _ => none

/-- Whether one object comes before another. -/
def Object.less (a b : Object) : Except ObjectError Bool :=
  match a, b with
  | .value v, .value w => (v.less w).mapError fun types => .noOrder types.1 types.2
  | a, b => .error (.noOrder a.typeName b.typeName)

/-- The names that modules say they have, each once. -/
def distinctTitles (modules : List ModuleObject) : List Object :=
  modules.foldl
    (fun found m => if found.any fun o => o.same m.title then found else found ++ [m.title]) []

/-- The names that modules say they have, each once and in order. They are kept as a set, which gives
them back in an order of its own before they are sorted. -/
def sortedTitles (p : Program) (modules : List ModuleObject) : Except ObjectError (List Object) :=
  sortBy Object.less (p.setOrder.arrange (distinctTitles modules))

/-- Why modules cannot be inspected. -/
inductive InspectError where
  | imports (e : ImportError)
  | object (e : ObjectError)
deriving Repr, DecidableEq

def InspectError.message : InspectError → String
  | imports e => e.message
  | object e => e.message

namespace Program

/-- A look at all modules of an inspection, and at the host if it is looked at too. -/
def look (p : Program) (modules : List ModuleObject) (withHost : Bool) : Look :=
  let host :=
    if withHost then [p.lookAtModule p.host p.host.natives (p.allClassesOf p.host)] else []
  let order :=
    match sortedTitles p modules with
    | .ok _ => none
    | .error e => some e
  Look.all (modules.map (fun m => Look.ofFault? (titleFault? m)) ++
    modules.map (fun m => p.lookAtModule m m.functions (p.classesOf m)) ++ host ++
    [Look.ofFault? order])

/-- Inspect modules by name, with the host or without. -/
def inspectNames (p : Program) (names : List String) (withHost : Bool) :
    Except InspectError Findings :=
  match p.importAll names with
  | .error e => .error (.imports e)
  | .ok modules =>
    match (p.look modules withHost).fault with
    | some e => .error (.object e)
    | none => .ok (p.inspect modules withHost)

end Program

end SymbolReference

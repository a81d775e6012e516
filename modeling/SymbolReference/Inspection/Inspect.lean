import SymbolReference.Inspection.Location
import SymbolReference.Text.Dedent
import SymbolReference.Value.Sorting

namespace SymbolReference

/-- The documentation of an object: its text without indentation. White space alone is no
documentation. -/
def documentationOf (v : Value) : Option String :=
  match v.text? with
  | none => none
  | some s =>
    if Text.allBlank s.toList then none else some (String.ofList (Text.dedent s.toList))

/-- A parameter of a signature as a declared parameter. Variadic parameters are marked by stars and
may be omitted. -/
def SignatureParameter.declared (p : SignatureParameter) : Parameter :=
  let stars :=
    match p.passing with
    | .variadic => "*"
    | .variadicKeyword => "**"
    | _ => ""
  { name := stars ++ p.name, optional := p.default.isSome || !stars.isEmpty,
    hasDefault := p.default.isSome, default := p.default.getD .none }

def FunctionObject.parameters (f : FunctionObject) : Except String (List Parameter) :=
  match f.signature with
  | some signature => .ok (signature.map SignatureParameter.declared)
  | none =>
    .error (match f.make with
      | .program => "unexpected object 'none' in __signature__ attribute"
      | _ => "no signature found for builtin " ++ f.display)

/-- What is declared about a function. -/
def Program.declare (p : Program) (f : FunctionObject) (kind : Kind) (name : String)
    (owner : Option String) (userDefined : Bool) : Declaration where
  kind := kind
  name := name
  owner := owner
  parameters := f.parameters.toOption.getD []
  location := (p.functionLocation f).toOption
  comment := documentationOf f.documentation
  userDefined := userDefined

def Program.functionSymbol (p : Program) (userDefined : Bool) (f : FunctionObject) : Symbol :=
  .leaf (p.declare f .function f.name none userDefined)

/-- Every class that is searched for the attributes of a class, itself first. -/
def Program.ancestry (p : Program) (c : ClassObject) : List ClassObject :=
  c.order.filterMap fun n => p.classes[n]?

/-- The attribute that a class has under a name: that of the first class in the order of search
which defines it. -/
def attribute? (ancestry : List ClassObject) (name : String) : Option Object :=
  ancestry.findSome? fun c => ownAttribute? c.attributes name

/-- Names in order, each once. -/
def sortedNames (names : List String) : List String :=
  (names.mergeSort (nameLe id)).eraseDups

def attributeNames (ancestry : List ClassObject) : List String :=
  sortedNames (ancestry.flatMap fun c => c.attributes.map Prod.fst)

/-- The names of what every class knows about itself. No function of a class is seen under them. -/
def selfKnowledge : List String :=
  ["__name__", "__qualname__", "__bases__", "__mro__", "__basicsize__", "__itemsize__",
    "__flags__", "__weakrefoffset__", "__base__", "__dictoffset__", "__class__"]

/-- Whether a documentation starts with a signature, given what follows the name: it ends at a line
of two hyphens, before the first empty line. -/
def startsWithSignature : List Char → Bool
  | ')' :: '\n' :: '-' :: '-' :: '\n' :: '\n' :: _ => true
  | '\n' :: '\n' :: _ => false
  | _ :: rest => startsWithSignature rest
  | [] => false

/-- Whether the documentation of a class starts with the last part of its name and a signature. -/
def ClassObject.tellsSignature (c : ClassObject) : Bool :=
  let name := (c.name.toList.reverse.takeWhile (· ≠ '.')).reverse
  let documentation := (c.documentation.text?.getD "").toList
  name.isPrefixOf documentation &&
    match documentation.drop name.length with
    | '(' :: rest => startsWithSignature rest
    | _ => false

/-- Whether a function that a class has under a name is hidden by what the class knows about
itself. -/
def hidesFunction (ancestry : List ClassObject) (name : String) : Bool :=
  selfKnowledge.contains name ||
    (name = "__text_signature__" && ancestry.head?.any ClassObject.tellsSignature)

/-- Whether an attribute is not passed on to descendants, which have one of their own. -/
def isWithheld (ancestry : List ClassObject) (name : String) : Bool :=
  name = "__annotations__" &&
    !(ancestry.head?.any fun c => (ownAttribute? c.attributes name).isSome)

def method? (ancestry : List ClassObject) (name : String) : Option FunctionObject :=
  if isWithheld ancestry name then none
  else
    match attribute? ancestry name with
    | some (.function f) =>
      if f.make ≠ .host && hidesFunction ancestry name then none else some f
    | some (.staticMethod f) | some (.classMethod f) => some f
    | _ => none

/-- The methods of a class with their names, in the order of the names. -/
def methodsIn (ancestry : List ClassObject) : List (String × FunctionObject) :=
  (attributeNames ancestry).filterMap fun name =>
    (method? ancestry name).map fun f => (name, f)

/-- Whether two objects are equal. Only values are looked into. -/
def Object.same : Object → Object → Bool
  | .value a, .value b => Value.same false a b
  | .klass a, .klass b | .module a, .module b => a = b
  | .function f, .function g | .staticMethod f, .staticMethod g | .classMethod f, .classMethod g =>
    f.number = g.number
  | .callable a, .callable b => a.number = b.number
  | _, _ => false

/-- Whether a function is written in the program and says that its module is one of some. -/
def FunctionObject.isFrom (f : FunctionObject) (modules : List Object) : Bool :=
  f.make = .program && modules.any fun title => (Object.value f.module).same title

/-- The symbol of a class. A method is user-defined when its function is from one of the given
modules. -/
def Program.classSymbol (p : Program) (userModules : List Object) (userDefined : Bool)
    (c : ClassObject) : Symbol :=
  .mk { kind := .klass, name := c.name, location := (p.classLocation c).toOption,
        comment := documentationOf c.documentation, userDefined }
    (some ((methodsIn (p.ancestry c)).map fun entry =>
      .symbol (.leaf (p.declare entry.2 .method entry.1 (some c.name)
        (entry.2.isFrom userModules)))))

/-- The names that a module lists, in order. Unless it lists names in a way of its own they are
those of its attributes. -/
def ModuleObject.names (m : ModuleObject) : Except ObjectError (List Value) :=
  match m.listing with
  | none => .ok ((m.attributes.map Prod.fst).mergeSort (nameLe id) |>.map Value.str)
  | some listing => do
    let listed ← listing
    match listed.items? with
    | none => throw (.notIterable listed.typeName)
    | some items =>
      sortBy (fun a b => (a.less b).mapError fun types => ObjectError.noOrder types.1 types.2) items

/-- The names for which the type of modules answers, whatever their attributes are. -/
def typeAnswered : List String := ["__class__", "__dict__"]

def ModuleObject.member? (m : ModuleObject) (name : String) : Except ObjectError (Option Object) :=
  match ownAttribute? m.attributes name with
  | some o => if typeAnswered.contains name then m.answer name else .ok (some o)
  | none => m.answer name

def ModuleObject.memberNamed (m : ModuleObject) (listed : Value) :
    Except ObjectError (Option (String × Object)) :=
  match listed.text? with
  | none => .error (.nameNotText listed.typeName)
  | some name => (m.member? name).map fun member => member.map fun o => (name, o)

/-- The members of a module in the order of their names, each once. -/
def ModuleObject.members (m : ModuleObject) : Except ObjectError (List (String × Object)) := do
  let found ← (← m.names).mapM m.memberNamed
  return (Mapping.ofList found.reduceOption).toList

def ModuleObject.found (m : ModuleObject) : List (String × Object) :=
  m.members.toOption.getD []

/-- Whether something that says it belongs to a module belongs to this one. -/
def ModuleObject.owns (m : ModuleObject) (told : Object) : Bool :=
  told.same m.title

def ModuleObject.functions (m : ModuleObject) : List FunctionObject :=
  m.found.filterMap fun entry =>
    match entry.2 with
    | .function f => if f.make = .program && m.owns (.value f.module) then some f else none
    | _ => none

def Program.allClassesOf (p : Program) (m : ModuleObject) : List ClassObject :=
  m.found.filterMap fun entry =>
    match entry.2 with
    | .klass number => p.classes[number]?
    | _ => none

def Program.classesOf (p : Program) (m : ModuleObject) : List ClassObject :=
  (p.allClassesOf m).filter fun c => m.owns c.module

def ModuleObject.natives (m : ModuleObject) : List FunctionObject :=
  m.found.filterMap fun entry =>
    match entry.2 with
    | .function f => if f.make = .host then some f else none
    | _ => none

/-- Whether a character may stand in the name of a constant. -/
def isConstantChar (c : Char) : Bool :=
  c.isUpper || c.isDigit || c = '_'

/-- Whether a name is that of a constant: a capital letter, then capitals, digits and underscores. A
line feed at the end is passed over. -/
def isConstantName (name : String) : Bool :=
  match name.toList with
  | [] => false
  | c :: rest =>
    c.isUpper &&
      (rest.all isConstantChar ||
        (rest.getLast? = some '\n' && rest.dropLast.all isConstantChar))

/-- The attributes of a module that are constants and whose names satisfy a test. -/
def ModuleObject.values (m : ModuleObject) (isName : String → Bool) : List (String × Value) :=
  m.attributes.filterMap fun entry =>
    match entry.2.constant? with
    | some v => if isName entry.1 then some (entry.1, v) else none
    | none => none

/-- Constants in the order of their names. -/
def sortedConstants (constants : Mapping Value) : Mapping Value :=
  Mapping.ofList (constants.toList.mergeSort (nameLe Prod.fst))

/-- The constants of modules, later modules over earlier ones. -/
def userConstants (modules : List ModuleObject) : Mapping Value :=
  sortedConstants (modules.foldl (fun built m => built.update (m.values isConstantName))
    Mapping.empty)

/-- The constants of the host: its values whose names do not start with an underscore. -/
def hostConstants (m : ModuleObject) : Mapping Value :=
  sortedConstants (Mapping.ofList (m.values fun name => !name.startsWith "_"))

/-- What an inspection finds: functions and constants by partition, and classes. -/
structure Findings where
  functions : List (String × List Symbol)
  classes : List Symbol
  constants : List (String × Mapping Value)

/-- The names that modules say they have. -/
def titles (modules : List ModuleObject) : List Object :=
  modules.map ModuleObject.title

def Program.inspect (p : Program) (modules : List ModuleObject) (withHost : Bool) : Findings :=
  let userModules := titles modules
  let functions := modules.flatMap fun m => m.functions.map (p.functionSymbol true)
  let classes := modules.flatMap fun m =>
    (p.classesOf m).map (p.classSymbol userModules true)
  let constants := userConstants modules
  if withHost then
    { functions :=
        [(userPartition, functions), (hostPartition, p.host.natives.map (p.functionSymbol false))]
      classes := classes ++ (p.allClassesOf p.host).map (p.classSymbol userModules false)
      constants := [(userPartition, constants), (hostPartition, hostConstants p.host)] }
  else
    { functions := [(userPartition, functions)], classes
      constants := [(userPartition, constants)] }

def Findings.inventory (f : Findings) : Inventory where
  functions := some (Mapping.ofList (f.functions.map fun entry =>
    (entry.1, some (entry.2.map Entry.symbol))))
  classes := some (f.classes.map Entry.symbol)
  constants := some (Mapping.ofList (f.constants.map fun entry => (entry.1, some entry.2)))

/-- The number of functions found. -/
def Findings.functionCount (f : Findings) : Nat :=
  (f.functions.flatMap fun entry => entry.2).length

/-- The number of constants found. -/
def Findings.constantCount (f : Findings) : Nat :=
  (f.constants.flatMap fun entry => entry.2.toList).length

end SymbolReference

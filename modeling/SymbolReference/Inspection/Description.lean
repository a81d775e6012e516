import SymbolReference.Inspection.Making
import SymbolReference.Inspection.Root
import SymbolReference.Text.Compatibility
import SymbolReference.Text.Lines

/-!
A description of a program is a tree: modules have members, classes among them have members of their
own. A class names its bases, and a member may be the very object that was described before under
another name. Linking a description makes the classes, numbers them and follows the names.
-/

namespace SymbolReference

/-- How a function of a class is bound. -/
inductive FunctionBinding where
  | plain
  | static
  | classBound
  | property
deriving Repr, DecidableEq

/-- What is described of a function. Name and module may be left to the place it stands in. -/
structure FunctionDescription where
  name : Option String := none
  module : Option String := none
  documentation : Value := .none
  signature : Option (List SignatureParameter) := some []
  lines : Option (Int × Int) := none

/-- What is described of a class, its members left out. -/
structure ClassDescription where
  name : Option String := none
  module : Option String := none
  documentation : Value := .none
  lines : Option (Int × Int) := none
  bases : List String := []

inductive MemberDescription where
  | function (binding : FunctionBinding) (f : FunctionDescription)
  | klass (c : ClassDescription) (members : List (String × MemberDescription))
  | native (n : Native)
  | module
  | callable
  | value (v : Value)
  | same (name : String)

instance : Inhabited MemberDescription :=
  ⟨.callable⟩

structure ModuleDescription where
  name : String
  file : Option String := none
  members : List (String × MemberDescription) := []

/-- The state of linking: the classes so far, the members of modules by the name they were described
under, and the number of the next object. The numbers before it are those of the functions of the
host. -/
structure Linking where
  classes : List ClassObject := [Root.root]
  known : List (String × Object) := []
  next : Nat := 5

/-- The member of a module that was described last under a name. -/
def Linking.find? (state : Linking) (name : String) : Option Object :=
  state.known.lookup name

def Linking.classNumber? (state : Linking) (name : String) : Option Nat :=
  match state.find? name with
  | some (.klass number) => some number
  | _ => none

def Linking.numbered {α : Type} (state : Linking) (make : Nat → α) : α × Linking :=
  (make state.next, { state with next := state.next + 1 })

/-- The object of a described function. -/
def FunctionDescription.link (f : FunctionDescription) (binding : FunctionBinding)
    (module : String) (file : Option String) (place : String) (number : Nat) : Object :=
  let object : FunctionObject :=
    { name := f.name.getD place, module := .str (f.module.getD module),
      documentation := f.documentation, signature := f.signature, file, lines := f.lines, number }
  match binding with
  | .plain => .function object
  | .static => .staticMethod object
  | .classBound => .classMethod object
  | .property => .value (.object { number, typeName := "property", text := "<property object>" })

/-- An object that can be called and is not looked into. -/
def callableObject (number : Nat) : Object :=
  .callable { number, typeName := "callable", text := "<callable object>" }

mutual

def linkMember (module : String) (file : Option String) (state : Linking) (name : String) :
    MemberDescription → Except ClassError (Object × Linking)
  | .function binding f => .ok (state.numbered (f.link binding module file name))
  | .klass c members => do
    let (attributes, state) ← linkMembers module file state members
    let bases := c.bases.filterMap state.classNumber?
    let told : List (String × Object) :=
      [("__module__", .value (.str (c.module.getD module))), ("__doc__", .value c.documentation)]
    let made ← makeClass state.classes (c.name.getD name)
      (if bases.isEmpty then [Root.number] else bases)
      (Mapping.ofList (told ++ attributes)).toList
    return (.klass state.classes.length, { state with classes := state.classes ++ [made] })
  | .native n => .ok (.function n.toFunction, state)
  | .module => .ok (state.numbered .module)
  | .callable => .ok (state.numbered callableObject)
  | .value v => .ok (.value v, state)
  | .same target => .ok ((state.find? target).getD (callableObject 0), state)

def linkMembers (module : String) (file : Option String) (state : Linking) :
    List (String × MemberDescription) → Except ClassError (List (String × Object) × Linking)
  | [] => .ok ([], state)
  | (name, member) :: others => do
    let (object, state) ← linkMember module file state name member
    let (rest, state) ← linkMembers module file state others
    return ((name, object) :: rest, state)

end

/-- Link the members of a module in order. Later members may refer to them by their names. -/
def linkTopMembers (module : String) (file : Option String) (state : Linking) :
    List (String × MemberDescription) → Except ClassError (List (String × Object) × Linking)
  | [] => .ok ([], state)
  | (name, member) :: others => do
    let (object, state) ← linkMember module file state name member
    let noted := { state with known := (name, object) :: state.known }
    let (rest, state) ← linkTopMembers module file noted others
    return ((name, object) :: rest, state)

mutual

def MemberDescription.hasLines : MemberDescription → Bool
  | .function _ f => f.lines.isSome
  | .klass c members => c.lines.isSome || membersHaveLines members
  | .native _ | .module | .callable | .value _ | .same _ => false

def membersHaveLines : List (String × MemberDescription) → Bool
  | [] => false
  | (_, member) :: others => member.hasLines || membersHaveLines others

end

/-- The classes that the source of a module defines, by their names in the source. A class whose
name is not in its normal form is not found. -/
def definedClasses (members : List (String × MemberDescription)) : List (String × Int × Int) :=
  members.filterMap fun entry =>
    match entry.2 with
    | .klass c _ =>
      let name := c.name.getD entry.1
      if Text.isNormalName name then c.lines.map fun lines => (name, lines) else none
    | _ => none

/-- An instance of a class. It is not looked into. -/
def instanceOf (classes : Classes) (number : Nat) : Value :=
  .object { number, typeName := classes.name number, text := "<" ++ classes.name number ++ ">" }

/-- What comes of asking for the names of a module by an attribute of its own. Functions of a
description return nothing. -/
def listingBy (classes : Classes) (o : Object) : Except ObjectError Object :=
  match o.callFault?, o with
  | some fault, _ => .error (.uncallable fault)
  | none, .klass number => .ok (.value (instanceOf classes number))
  | none, _ => .ok (.value .none)

/-- Link a module. An attribute that is described twice keeps its place and holds the last object.
Some attributes say what the module is called, where its file is and which names it lists. No
described module lists names that are none of its attributes. -/
def linkModule (state : Linking) (m : ModuleDescription) :
    Except ClassError (ModuleObject × Linking) := do
  let (attributes, state) ← linkTopMembers m.name m.file state m.members
  let linked : ModuleObject :=
    { name := m.name
      title := (ownAttribute? attributes "__name__").getD (.value (.str m.name))
      file := ownAttribute? attributes "__file__" <|> m.file.map fun file => .value (.str file)
      sourceFile := m.file
      source := if membersHaveLines m.members then some (definedClasses m.members) else none
      attributes := (Mapping.ofList attributes).toList
      listing := (ownAttribute? attributes "__dir__").map (listingBy state.classes) }
  return (linked, state)

def linkModules (state : Linking) :
    List ModuleDescription → Except ClassError (List ModuleObject × Linking)
  | [] => .ok ([], state)
  | m :: others => do
    let (linked, state) ← linkModule state m
    let (rest, state) ← linkModules state others
    return (linked :: rest, state)

def hostName : String := "builtins"

/-- The program without any module. -/
def Program.bare : Program where
  classes := [Root.root]
  host := { name := hostName, title := .value (.str hostName) }

def Program.ofDescription (modules : List ModuleDescription) (host : ModuleDescription) :
    Except ClassError Program := do
  let (linked, state) ← linkModules {} modules
  let (hostModule, state) ← linkModule state { host with name := hostName }
  return { classes := state.classes, modules := linked, host := hostModule }

end SymbolReference

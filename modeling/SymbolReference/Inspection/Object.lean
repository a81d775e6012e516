import SymbolReference.Value.Basic

namespace SymbolReference

/-- How an argument is passed to a parameter. -/
inductive Passing where
  | positionalOnly
  | positional
  | variadic
  | keyword
  | variadicKeyword
deriving Repr, DecidableEq

structure SignatureParameter where
  name : String
  passing : Passing := .positional
  default : Option Value := none

/-- How a function is made: written in the program, provided by the host, or a part of the class
from which all classes descend. -/
inductive Make where
  | program
  | host
  | slot
  | rootMethod
  | rootClassMethod
deriving Repr, DecidableEq

def Make.typeName : Make → String
  | program => "function"
  | host => "builtin_function_or_method"
  | slot => "wrapper_descriptor"
  | rootMethod => "method_descriptor"
  | rootClassMethod => "classmethod_descriptor"

/-- A function. What it says its module is may be any value, and the signature may be unknown; the
lines are those of its source. The number tells it from other objects. -/
structure FunctionObject where
  name : String
  module : Value
  documentation : Value := .none
  signature : Option (List SignatureParameter) := some []
  file : Option String := none
  lines : Option (Int × Int) := none
  make : Make := .program
  number : Nat := 0

/-- What an attribute of a module or class holds. A class is given by its number among the classes
of the program, another module by the number that tells it from other objects. What can be called
and is none of these, and every other value, is not looked into. -/
inductive Object where
  | function (f : FunctionObject)
  | staticMethod (f : FunctionObject)
  | classMethod (f : FunctionObject)
  | klass (number : Nat)
  | module (number : Nat)
  | callable (o : Opaque)
  | value (v : Value)

/-- Why an inspection fails. The last reason is whatever the inspected modules themselves raise: the
name of the exception and its message. -/
inductive ObjectError where
  | unhashable (typeName : String)
  | notIterable (typeName : String)
  | uncallable (fault : String)
  | nameNotText (typeName : String)
  | noEnding (owner : String)
  | noOrder (left right : String)
  | raised (exception message : String)
deriving Repr, DecidableEq

/-- The message about an inspection that fails. -/
def ObjectError.message : ObjectError → String
  | unhashable typeName => "unhashable type: '" ++ typeName ++ "'"
  | notIterable typeName => "'" ++ typeName ++ "' object is not iterable"
  | uncallable fault => fault
  | nameNotText typeName => "attribute name must be string, not '" ++ typeName ++ "'"
  | noEnding owner => owner ++ " has no attribute 'endswith'"
  | noOrder left right =>
    "'<' not supported between instances of '" ++ left ++ "' and '" ++ right ++ "'"
  | raised _ message => message

/-- How the instances of a class are laid out: the number of places for slots and for the start of
weak references, whether they have a dictionary, the place where weak references start, and the
number of the class that decided the places. -/
structure Layout where
  size : Nat := 0
  dictionary : Bool := false
  weak : Option Nat := none
  decidedBy : Nat := 0
deriving Repr, DecidableEq

/-- A class with its own attributes and the order in which it and the classes it descends from are
searched. The full name may differ from the name. -/
structure ClassObject where
  name : String
  fullName : String
  order : List Nat := []
  attributes : List (String × Object) := []
  layout : Layout := {}

/-- A module with its attributes, what it says its name and its file are, and the classes that its
source defines, with their lines. The source is kept under the name of the file that it was read
from. A module may list its names in a way of its own, and it may have an answer for names that are
none of its attributes: in both cases what comes of asking it is given. -/
structure ModuleObject where
  name : String
  title : Object
  file : Option Object := none
  sourceFile : Option String := none
  source : Option (List (String × Int × Int)) := none
  attributes : List (String × Object) := []
  listing : Option (Except ObjectError Object) := none
  answer : String → Except ObjectError (Option Object) := fun _ => .ok none

/-- The order in which a set gives back the objects that were put into it. -/
structure SetOrder where
  arrange : List Object → List Object
  perm : ∀ objects, (arrange objects).Perm objects

/-- A set that gives back its objects in the order in which they were put into it. -/
def SetOrder.inserted : SetOrder where
  arrange := id
  perm := List.Perm.refl

/-- A running program: its classes, its modules that can be imported, the module of the host, and the
order of its sets. The first class is the one from which all others descend. -/
structure Program where
  classes : List ClassObject
  modules : List ModuleObject := []
  host : ModuleObject
  setOrder : SetOrder := .inserted

namespace Object

def typeName : Object → String
  | function f => f.make.typeName
  | staticMethod _ => "staticmethod"
  | classMethod f =>
    match f.make with
    | .rootClassMethod => f.make.typeName
    | _ => "classmethod"
  | klass _ => "type"
  | module _ => "module"
  | callable o => o.typeName
  | value v => v.typeName

/-- A type as messages name it. -/
def typeDisplay : Object → String
  | value v => v.typeDisplay
  | o => "<class '" ++ o.typeName ++ "'>"

def text? : Object → Option String
  | value v => v.text?
  | _ => none

def items? : Object → Option (List Value)
  | value v => v.items?
  | _ => none

end Object

/-- A function as messages name it. -/
def FunctionObject.display (f : FunctionObject) : String :=
  match f.make with
  | .host => "<built-in function " ++ f.name ++ ">"
  | .program =>
    "<function " ++ f.name ++ " at 0x" ++ String.ofList (Nat.toDigits 16 f.number) ++ ">"
  | _ => "<method '" ++ f.name ++ "' of 'object' objects>"

/-- What wraps a function of a class, as an object that is not looked into. -/
def FunctionObject.wrapper (f : FunctionObject) (typeName : String) : Opaque where
  number := f.number
  typeName := typeName
  text := "<" ++ typeName ++ "(" ++ f.display ++ ")>"

/-- The value that an object is as a constant. Code is no constant: what can be called, modules and
classes. What wraps a method of classes cannot be called, unless every class has the method. -/
def Object.constant? : Object → Option Value
  | value v => some v
  | classMethod f =>
    match f.make with
    | .rootClassMethod => none
    | _ => some (.object (f.wrapper "classmethod"))
  | function _ | staticMethod _ | klass _ | module _ | callable _ => none

/-- The object that a class or module has under a name. The last of several definitions counts. -/
def ownAttribute? (attributes : List (String × Object)) (name : String) : Option Object :=
  attributes.reverse.lookup name

def ClassObject.module (c : ClassObject) : Object :=
  (ownAttribute? c.attributes "__module__").getD (.value .none)

def ClassObject.documentation (c : ClassObject) : Value :=
  match ownAttribute? c.attributes "__doc__" with
  | some (.value v) => v
  | _ => .none

end SymbolReference

import SymbolReference.Inspection.Object

namespace SymbolReference

/-- The functions of the host that a description of a program can name. -/
inductive Native where
  | abs
  | len
  | max
  | sorted
deriving Repr, DecidableEq

namespace Native

/-- The name of a function of the host. -/
def name : Native → String
  | abs => "abs"
  | len => "len"
  | max => "max"
  | sorted => "sorted"

/-- The function of the host with a given name. -/
def ofName? : String → Option Native
  | "abs" => some abs
  | "len" => some len
  | "max" => some max
  | "sorted" => some sorted
  | _ => none

/-- The signature of a function of the host, if it is known. -/
def signature : Native → Option (List SignatureParameter)
  | abs => some [{ name := "x" }]
  | len => some [{ name := "obj" }]
  | max => none
  | sorted =>
    some [{ name := "iterable" }, { name := "key", default := some .none },
      { name := "reverse", default := some (.bool false) }]

/-- The documentation of a function of the host. -/
def documentation : Native → String
  | abs => "Return the absolute value of the argument."
  | len => "Return the number of items in a container."
  | max =>
    "max(iterable, *[, default=obj, key=func]) -> value\n" ++
    "max(arg1, arg2, *args, *[, key=func]) -> value\n\n" ++
    "With a single iterable argument, return its biggest item. The\n" ++
    "default keyword-only argument specifies an object to return if\n" ++
    "the provided iterable is empty.\n" ++
    "With two or more arguments, return the largest argument."
  | sorted =>
    "Return a new list containing all items from the iterable in ascending order.\n\n" ++
    "A custom key function can be supplied to customize the sort order, and the\n" ++
    "reverse flag can be set to request the result in descending order."

/-- What is said when a function of the host is called without arguments. -/
def argumentMissing : Native → String
  | abs => "abs() takes exactly one argument (0 given)"
  | len => "len() takes exactly one argument (0 given)"
  | max => "max expected at least 1 argument, got 0"
  | sorted => "sorted expected 1 argument, got 0"

/-- The number of a function of the host. No other object that is described has one of these. -/
def number : Native → Nat
  | abs => 1
  | len => 2
  | max => 3
  | sorted => 4

def toFunction (n : Native) : FunctionObject where
  name := n.name
  module := .str "builtins"
  documentation := .str n.documentation
  signature := n.signature
  make := .host
  number := n.number

end Native

/-- What is wrong with calling an object of a description without arguments. -/
def Object.callFault? : Object → Option String
  | .function f =>
    match f.make with
    | .host => (Native.ofName? f.name).map Native.argumentMissing
    | _ => none
  | .staticMethod _ | .klass _ | .callable _ => none
  | o => some ("'" ++ o.typeName ++ "' object is not callable")

end SymbolReference

import SymbolReference.Inspection.Object

namespace SymbolReference.Root

/-- A parameter that is passed by its position only. -/
def positional (name : String) : SignatureParameter :=
  { name, passing := .positionalOnly }

/-- The parameters that take all further arguments. -/
def others : List SignatureParameter :=
  [{ name := "args", passing := .variadic }, { name := "kwargs", passing := .variadicKeyword }]

def method (make : Make) (name documentation : String) (arguments : List String) :
    String × Object :=
  (name, .function {
    name
    module := .str "builtins"
    documentation := .str documentation
    signature := some (("self" :: arguments).map positional)
    make })

/-- A method of the class itself, whose signature is unknown. -/
def classMethod (name documentation : String) : String × Object :=
  (name, .classMethod {
    name
    module := .str "builtins"
    documentation := .str documentation
    signature := none
    make := .rootClassMethod })

/-- The methods that every class has. -/
def methods : List (String × Object) :=
  [method .slot "__delattr__" "Implement delattr(self, name)." ["name"],
    method .rootMethod "__dir__" "Default dir() implementation." [],
    method .slot "__eq__" "Return self==value." ["value"],
    method .rootMethod "__format__" "Default object formatter." ["format_spec"],
    method .slot "__ge__" "Return self>=value." ["value"],
    method .slot "__getattribute__" "Return getattr(self, name)." ["name"],
    method .rootMethod "__getstate__" "Helper for pickle." [],
    method .slot "__gt__" "Return self>value." ["value"],
    method .slot "__hash__" "Return hash(self)." [],
    ("__init__", .function {
      name := "__init__"
      module := .str "builtins"
      documentation := .str "Initialize self.  See help(type(self)) for accurate signature."
      signature := some (positional "self" :: others)
      make := .slot }),
    classMethod "__init_subclass__"
      ("This method is called when a class is subclassed.\n\n" ++
        "The default implementation does nothing. It may be\n" ++
        "overridden to extend subclasses.\n"),
    method .slot "__le__" "Return self<=value." ["value"],
    method .slot "__lt__" "Return self<value." ["value"],
    method .slot "__ne__" "Return self!=value." ["value"],
    ("__new__", .staticMethod {
      name := "__new__"
      module := .str "builtins"
      documentation :=
        .str "Create and return a new object.  See help(type) for accurate signature."
      signature := some others
      make := .host }),
    method .rootMethod "__reduce__" "Helper for pickle." [],
    method .rootMethod "__reduce_ex__" "Helper for pickle." ["protocol"],
    method .slot "__repr__" "Return repr(self)." [],
    method .slot "__setattr__" "Implement setattr(self, name, value)." ["name", "value"],
    method .rootMethod "__sizeof__" "Size of object in memory, in bytes." [],
    method .slot "__str__" "Return str(self)." [],
    classMethod "__subclasshook__"
      ("Abstract classes can override this to customize issubclass().\n\n" ++
        "This is invoked early on by abc.ABCMeta.__subclasscheck__().\n" ++
        "It should return True, False or NotImplemented.  If it returns\n" ++
        "NotImplemented, the normal algorithm is used.  Otherwise, it\n" ++
        "overrides the normal algorithm (and the outcome is cached).\n")]

/-- The number of the class among the classes of a program. -/
def number : Nat := 0

def root : ClassObject where
  name := "object"
  fullName := "object"
  order := [number]
  attributes := methods

end SymbolReference.Root

import SymbolReference.Fault
import SymbolReference.Inspection.Object

namespace SymbolReference

/-- Why modules cannot be imported. Empty and relative names are refused before any look-up. -/
inductive ImportError where
  | emptyName
  | relativeName (name : String)
  | notFound (name reason : String)
  | notIterable (typeName : String)
deriving Repr, DecidableEq

def importFault (name reason : String) : Fault :=
  { Fault.of .introspection ("Cannot import module " ++ Text.quote name ++ ": " ++ reason)
      [("module", .str name)] with cause := some (.other reason) }

/-- The message about an import that fails before or during the look-up. -/
def ImportError.message : ImportError → String
  | emptyName => "Empty module name"
  | relativeName name =>
    "the 'package' argument is required to perform a relative import for " ++ Text.quote name
  | notFound name reason => (importFault name reason).message
  | notIterable typeName => "'" ++ typeName ++ "' object is not iterable"

/-- The part of a dotted name before its last dot, if it has one. -/
def parentName (name : List Char) : Option (List Char) :=
  match name.reverse.dropWhile fun c => c ≠ '.' with
  | [] => none
  | _ :: rest => some rest.reverse

/-- The search path of a module, if it is a package: whether it can be searched, or else the name of
its type. -/
def ModuleObject.searchPath? (m : ModuleObject) : Option (Except String Unit) :=
  (ownAttribute? m.attributes "__path__").map fun path =>
    match path with
    | .value .none | .callable _ => .ok ()
    | .value v => if v.items?.isSome then .ok () else .error v.typeName
    | path => .error path.typeName

/-- The module with a name. Of two modules with one name the later is meant. -/
def Program.module? (p : Program) (name : String) : Option ModuleObject :=
  p.modules.reverse.find? fun m => m.name = name

/-- Why a name is not found, by at most `fuel` ancestors. The name that was asked for is given
first. -/
def Program.missing (p : Program) (asked : String) : Nat → List Char → ImportError
  | 0, name => .notFound asked ("No module named " ++ Text.quote (String.ofList name))
  | fuel + 1, name =>
    let missing := "No module named " ++ Text.quote (String.ofList name)
    match parentName name with
    | none => .notFound asked missing
    | some parent =>
      if parent.isEmpty then .notFound asked missing
      else
        match p.module? (String.ofList parent) with
        | none => p.missing asked fuel parent
        | some m =>
          match m.searchPath? with
          | none =>
            .notFound asked
              (missing ++ "; " ++ Text.quote (String.ofList parent) ++ " is not a package")
          | some (.ok _) => .notFound asked missing
          | some (.error typeName) => .notIterable typeName

def Program.importModule (p : Program) (name : String) : Except ImportError ModuleObject :=
  if name.isEmpty then .error .emptyName
  else if name.startsWith "." then .error (.relativeName name)
  else
    match p.module? name with
    | some m => .ok m
    | none => .error (p.missing name name.length name.toList)

/-- Find modules by name, in order. The first name that is not found ends the search. -/
def Program.importAll (p : Program) : List String → Except ImportError (List ModuleObject)
  | [] => .ok []
  | name :: others => do
    let m ← p.importModule name
    let rest ← p.importAll others
    return m :: rest

end SymbolReference

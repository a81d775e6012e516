import SymbolReference.Fault

namespace SymbolReference

/-- A list of symbols that is checked: a partition of the functions, the classes, or the methods of
one class. -/
inductive Collection where
  | functions (partition : String)
  | classes
  | methods (owner : String)
deriving Repr, DecidableEq

def Collection.name : Collection → String
  | functions partition => "functions[" ++ partition ++ "]"
  | classes => "classes"
  | methods owner => owner ++ ".methods"

/-- Why a document cannot be built from what was reported. -/
inductive DocumentError where
  | noInventory
  | noFunctions
  | noClasses
  | noConstants
  | noEntries (collection : Collection)
  | notASymbol (collection : Collection) (index : Nat) (entry : Value)
  | wrongKind (collection : Collection) (index : Nat) (name : String) (found expected : Kind)
  | ownerless (name : String)
  | strayMethods (name : String) (kind : Kind)

namespace DocumentError

/-- The message about an error. An entry that is no symbol is written out in it, which fails for
numbers with too many digits. -/
def message : DocumentError → Except Decimal.NumberError String
  | noInventory => .ok "No introspection result supplied"
  | noFunctions => .ok "Function collection is missing"
  | noClasses => .ok "Class collection is missing"
  | noConstants => .ok "Constant collection is missing"
  | noEntries collection => .ok ("Collection " ++ collection.name ++ " is None")
  | notASymbol collection index entry =>
    if entry.isWritable then
      .ok ("Entry " ++ toString index ++ " of " ++ collection.name ++ " is not a RawSymbol: " ++
        entry.written)
    else .error .unwritable
  | wrongKind collection _ name found expected =>
    .ok ("Entry " ++ Text.quote name ++ " of " ++ collection.name ++ " is a " ++ found.label ++
      ", expected " ++ expected.label)
  | ownerless name => .ok ("Method " ++ Text.quote name ++ " has no owning class")
  | strayMethods name kind =>
    .ok ("Only classes carry methods, got " ++ kind.label ++ " " ++ Text.quote name)

/-- The named values that go with an error. -/
def context : DocumentError → List (String × Value)
  | noInventory => []
  | noFunctions => [("collection", .str "functions")]
  | noClasses => [("collection", .str "classes")]
  | noConstants => [("collection", .str "constants")]
  | noEntries collection => [("collection", .str collection.name)]
  | notASymbol collection index _ | wrongKind collection index _ _ _ =>
    [("collection", .str collection.name), ("index", .int index)]
  | ownerless name => [("symbol", .str name)]
  | strayMethods name kind => [("symbol", .str name), ("kind", .str kind.label)]

def faultKind : DocumentError → FaultKind
  | ownerless _ | strayMethods _ _ => .symbolInvariant
  | _ => .invalidSymbol

/-- What an error comes to: a fault with its message, if there is one. -/
def failure (error : DocumentError) : Failure :=
  match error.message with
  | .ok message => .fault (Fault.of error.faultKind message error.context)
  | .error e => .number e

end DocumentError

end SymbolReference

import SymbolReference.Document.Basic
import SymbolReference.Text.Order

/-!
Symbols are selected first: all of them, or the user-defined ones of the user partition. Every
entry of a considered collection is checked, whether it is selected or not. Then comments are read,
methods without an owner get the name of their class, and functions, classes and the methods of
each class are put in the order of their names; equal names keep the order in which they were
found. Constants keep the order supplied.
-/

namespace SymbolReference

/-- The symbols of a list of entries, all of which must have the given kind. Entries are counted
from the given index. -/
def checkedFrom (collection : Collection) (kind : Kind) :
    Nat → List Entry → Except DocumentError (List Symbol)
  | _, [] => .ok []
  | index, .other v :: _ => .error (.notASymbol collection index v)
  | index, .symbol s :: others =>
    if s.kind = kind then do
      let rest ← checkedFrom collection kind (index + 1) others
      return s :: rest
    else .error (.wrongKind collection index s.name s.kind kind)

/-- The symbols of a collection, which must be present and hold symbols of the given kind only. -/
def checked (collection : Collection) (kind : Kind) :
    Option (List Entry) → Except DocumentError (List Symbol)
  | none => .error (.noEntries collection)
  | some entries => checkedFrom collection kind 0 entries

/-- Whether a symbol is kept: all are, or the user-defined ones. -/
def retained (includeAll : Bool) (s : Symbol) : Bool :=
  includeAll || s.userDefined

/-- The partitions of functions that are considered. A missing user partition counts as empty. -/
def consideredPartitions (includeAll : Bool) (functions : Mapping (Option (List Entry))) :
    List (String × Option (List Entry)) :=
  if includeAll then functions.toList
  else [(userPartition, (functions.get? userPartition).getD (some []))]

/-- The retained functions of some partitions in order. -/
def functionsOf (includeAll : Bool) :
    List (String × Option (List Entry)) → Except DocumentError (List Symbol)
  | [] => .ok []
  | (partition, entries) :: others => do
    let symbols ← checked (.functions partition) .function entries
    let rest ← functionsOf includeAll others
    return symbols.filter (retained includeAll) ++ rest

/-- The retained functions of an inventory. -/
def selectFunctions (includeAll : Bool) :
    Option (Mapping (Option (List Entry))) → Except DocumentError (List Symbol)
  | none => .error .noFunctions
  | some functions => functionsOf includeAll (consideredPartitions includeAll functions)

/-- The retained classes of an inventory. -/
def selectClasses (includeAll : Bool) :
    Option (List Entry) → Except DocumentError (List Symbol)
  | none => .error .noClasses
  | some entries => do
    let symbols ← checked .classes .klass (some entries)
    return symbols.filter (retained includeAll)

/-- All partitions of constants written into one mapping, later ones over earlier ones. -/
def mergedConstants (partitions : List (Option (Mapping Value))) : Mapping Value :=
  partitions.foldl
    (fun merged partition => merged.update (partition.getD Mapping.empty).toList) Mapping.empty

/-- The retained constants of an inventory. -/
def selectConstants (includeAll : Bool) :
    Option (Mapping (Option (Mapping Value))) → Except DocumentError (Mapping Value)
  | none => .error .noConstants
  | some constants =>
    if includeAll then .ok (mergedConstants constants.values)
    else .ok (((constants.get? userPartition).getD none).getD Mapping.empty)

/-- The symbols that go into a document. -/
structure Selection where
  functions : List Symbol
  classes : List Symbol
  constants : Mapping Value

/-- Select the symbols of an inventory: functions, then classes, then constants. -/
def select (includeAll : Bool) (inventory : Inventory) : Except DocumentError Selection := do
  let functions ← selectFunctions includeAll inventory.functions
  let classes ← selectClasses includeAll inventory.classes
  let constants ← selectConstants includeAll inventory.constants
  return { functions, classes, constants }

/-- Put models in the order of their names; equal names keep their order. -/
def sortedByName (models : List Model) : List Model :=
  models.mergeSort (nameLe Model.name)

def commentOf (s : Symbol) : Comment :=
  Comment.parse? s.declaration.comment

def resolve (s : Symbol) : Except DocumentError Model :=
  Model.make s (commentOf s) []

/-- The retained methods of a class with their owners filled in. -/
def methodsOf (includeAll : Bool) (c : Symbol) : Except DocumentError (List Symbol) := do
  let symbols ← checked (.methods c.name) .method c.methods
  return (symbols.filter (retained includeAll)).map (Symbol.ownedBy c.name)

def resolveClass (includeAll : Bool) (c : Symbol) : Except DocumentError Model := do
  let methods ← methodsOf includeAll c
  let models ← methods.mapM resolve
  Model.make c (commentOf c) (sortedByName models)

def Document.build (includeAll : Bool) (inventory : Inventory) :
    Except DocumentError Document := do
  let selection ← select includeAll inventory
  let functions ← selection.functions.mapM resolve
  let classes ← selection.classes.mapM (resolveClass includeAll)
  let constants ← selection.constants.toList.mapM fun entry =>
    Model.make (Symbol.constant entry.1 entry.2) Comment.empty []
  return {
    functions := sortedByName functions
    classes := sortedByName classes
    constants := constants
    includeAll := includeAll }

def Document.build? (includeAll : Bool) : Option Inventory → Except DocumentError Document
  | none => .error .noInventory
  | some inventory => Document.build includeAll inventory

end SymbolReference

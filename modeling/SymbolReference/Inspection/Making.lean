import SymbolReference.Inspection.Layout
import SymbolReference.Inspection.Linearization
import SymbolReference.Inspection.Native
import SymbolReference.Mapping

namespace SymbolReference

/-- Why a class cannot be made. -/
inductive ClassError where
  | conflictingLayouts
  | slots (e : SlotError)
  | nullInName
  | fullName (typeName : String)
  | cell (typeDisplay : String)
  | repeatedBase (name : String)
  | contradictingBases (names : List String)
  | derivation (fault : String)
deriving Repr, DecidableEq

def ClassError.message : ClassError → String
  | conflictingLayouts => "multiple bases have instance lay-out conflict"
  | slots e => e.message
  | nullInName => "type name must not contain null characters"
  | fullName typeName => "type __qualname__ must be a str, not " ++ typeName
  | cell typeDisplay => "__classcell__ must be a nonlocal cell, not " ++ typeDisplay
  | repeatedBase name => "duplicate base class " ++ name
  | contradictingBases names =>
    "Cannot create a consistent method resolution\norder (MRO) for bases " ++
      String.intercalate ", " names
  | derivation fault => fault

/-- The classes that have been made, by their numbers. -/
abbrev Classes := List ClassObject

namespace Classes

def layout (classes : Classes) (number : Nat) : Layout :=
  (classes[number]?.map ClassObject.layout).getD {}

def order (classes : Classes) (number : Nat) : List Nat :=
  (classes[number]?.map ClassObject.order).getD []

def name (classes : Classes) (number : Nat) : String :=
  (classes[number]?.map ClassObject.name).getD ""

/-- The base whose layout a class with several bases extends: the one whose places were decided
last. The bases must not have places that were decided apart from each other. -/
def chiefBase (classes : Classes) : List Nat → Except ClassError Nat
  | [] => .ok 0
  | first :: others => do
    let (chief, _) ← others.foldlM
      (fun (chief, winner) base =>
        let candidate := (classes.layout base).decidedBy
        if (classes.order winner).contains candidate then .ok (chief, winner)
        else if (classes.order candidate).contains winner then .ok (base, candidate)
        else .error .conflictingLayouts)
      (first, (classes.layout first).decidedBy)
    return chief

def newOrder (classes : Classes) (bases : List Nat) : Except ClassError (List Nat) :=
  match bases.find? fun number => bases.count number > 1 with
  | some number => .error (.repeatedBase (classes.name number))
  | none =>
    match linearize classes.length bases (bases.map classes.order) with
    | .ok order => .ok order
    | .error blocked => .error (.contradictingBases (blocked.map classes.name))

end Classes

def fullNameOf (name : String) (attributes : List (String × Object)) : Except ClassError String :=
  match ownAttribute? attributes "__qualname__" with
  | none => .ok name
  | some o =>
    match o.text? with
    | some text => .ok text
    | none => .error (.fullName o.typeName)

/-- What a class adds to the layout of its bases. -/
def slotsOf (classes : Classes) (name : String) (bases : List Nat) (chief : Nat)
    (attributes : List (String × Object)) : Except ClassError Slots :=
  let base := classes.layout chief
  match ownAttribute? attributes "__slots__" with
  | none => .ok (usualSlots base)
  | some o =>
    match readSlots name base (attributes.map Prod.fst) o with
    | .error e => .error (.slots e)
    | .ok slots =>
      .ok (slots.withBases base ((bases.filter (· ≠ chief)).map classes.layout))

/-- The place of a field in every instance. It is not looked into. -/
def fieldObject (name : String) : Object :=
  .value (.object
    { number := 0, typeName := "member_descriptor", text := "<member " ++ Text.quote name ++ ">" })

/-- The attributes that a class has in the end. The full name is no attribute; slots are fields;
a class that defines equality without a hash has no hash. What is defined stays. -/
def finalAttributes (attributes : List (String × Object)) (slots : Slots) :
    List (String × Object) :=
  let kept := attributes.filter fun entry => entry.1 ≠ "__qualname__"
  let has := fun name => kept.any fun entry => entry.1 = name
  let fields := slots.names ++ (if slots.dictionary then [dictionarySlot] else []) ++
    (if slots.weak then [weakSlot] else [])
  kept ++ ((fields.filter fun name => !has name).map fun name => (name, fieldObject name)) ++
    (if has "__eq__" && !has "__hash__" then [("__hash__", .value .none)] else [])

/-- What is wrong with deriving a class from those after it in its order: the first of them that
says what is done then decides. -/
def derivationFault? (classes : Classes) (order : List Nat) : Option String :=
  (order.tail.findSome? fun number =>
    (classes[number]?).bind fun c => ownAttribute? c.attributes "__init_subclass__").bind fun o =>
      match o with
      | .classMethod _ => none
      | o => o.callFault?

def makeClass (classes : Classes) (name : String) (bases : List Nat)
    (attributes : List (String × Object)) : Except ClassError ClassObject := do
  let chief ← classes.chiefBase bases
  let slots ← slotsOf classes name bases chief attributes
  if name.toList.contains '\x00' then throw .nullInName
  let fullName ← fullNameOf name attributes
  if let some o := ownAttribute? attributes "__classcell__" then throw (.cell o.typeDisplay)
  let order ← classes.newOrder bases
  if let some fault := derivationFault? classes order then throw (.derivation fault)
  let base := classes.layout chief
  return {
    name, fullName, order
    attributes := finalAttributes attributes slots
    layout := base.extend (classes.layout base.decidedBy) classes.length slots }

end SymbolReference

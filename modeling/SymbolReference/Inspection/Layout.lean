import SymbolReference.Inspection.Object
import SymbolReference.Text.Identifier
import SymbolReference.Text.Quoted

namespace SymbolReference

/-- What can be wrong with the slots of a class. -/
inductive SlotError where
  | notIterable (typeName : String)
  | notText (typeName : String)
  | notAName
  | secondDictionary
  | secondWeak
  | taken (name : String)
deriving Repr, DecidableEq

def SlotError.message : SlotError → String
  | notIterable typeName => "'" ++ typeName ++ "' object is not iterable"
  | notText typeName => "__slots__ items must be strings, not '" ++ typeName ++ "'"
  | notAName => "__slots__ must be identifiers"
  | secondDictionary => "__dict__ slot disallowed: we already got one"
  | secondWeak => "__weakref__ slot disallowed: either we already got one, or __itemsize__ != 0"
  | taken name => Text.quote name ++ " in __slots__ conflicts with class variable"

def dictionarySlot : String := "__dict__"

def weakSlot : String := "__weakref__"

/-- The name under which a class keeps a private attribute: the name of the class goes before a name
that starts with two underscores and does not end with them. -/
def privateName (className name : String) : String :=
  let owner := className.toList.dropWhile (· = '_')
  if name.startsWith "__" && !name.endsWith "__" && !owner.isEmpty then
    "_" ++ String.ofList owner ++ name
  else name

/-- What a class adds to the layout of its base: named places, a dictionary, weak references. -/
structure Slots where
  names : List String := []
  dictionary : Bool := false
  weak : Bool := false
deriving Repr, DecidableEq

/-- The items of a list of slots. A text is one slot. -/
def slotItems (o : Object) : Except SlotError (List Value) :=
  match o with
  | .value v =>
    match v.text?, v.items? with
    | some _, _ => .ok [v]
    | none, some items => .ok items
    | none, none => .error (.notIterable v.typeName)
  | o => .error (.notIterable o.typeName)

def visitSlots (base : Layout) : Slots → List Value → Except SlotError Slots
  | slots, [] => .ok slots
  | slots, item :: others =>
    match item.text? with
    | none => .error (.notText item.typeName)
    | some name =>
      if !Text.isName name.toList then .error .notAName
      else if name = dictionarySlot then
        if base.dictionary || slots.dictionary then .error .secondDictionary
        else visitSlots base { slots with dictionary := true } others
      else if name = weakSlot then
        if base.weak.isSome || slots.weak then .error .secondWeak
        else visitSlots base { slots with weak := true } others
      else visitSlots base { slots with names := slots.names ++ [name] } others

/-- The slots that a class lists. A slot must not have the name of an attribute, with two
exceptions that are no attributes in the end. -/
def readSlots (className : String) (base : Layout) (namespaceNames : List String) (o : Object) :
    Except SlotError Slots := do
  let visited ← visitSlots base {} (← slotItems o)
  let names := visited.names.map (privateName className)
  match names.find? fun name =>
      namespaceNames.contains name && name ≠ "__qualname__" && name ≠ "__classcell__" with
  | some name => throw (.taken name)
  | none => return { visited with names }

/-- What a class adds that lists no slots. -/
def usualSlots (base : Layout) : Slots :=
  { dictionary := !base.dictionary, weak := base.weak.isNone }

/-- The slots of a class with further bases, which may call for a dictionary or weak references. -/
def Slots.withBases (slots : Slots) (base : Layout) (others : List Layout) : Slots where
  names := slots.names
  dictionary := slots.dictionary || (!base.dictionary && others.any Layout.dictionary)
  weak := slots.weak || (base.weak.isNone && others.any fun l => l.weak.isSome)

/-- Whether a layout has other places than the one that decided them so far. Weak references at the
end do not count. -/
def Layout.differs (own decided : Layout) : Bool :=
  let trailing := own.weak.any fun place => decided.weak.isNone && place + 1 = own.size
  (if trailing then own.size - 1 else own.size) ≠ decided.size

/-- The layout of a class with a number that adds slots to its base. `decided` is the layout of the
class that decided the places of the base. -/
def Layout.extend (base decided : Layout) (number : Nat) (slots : Slots) : Layout :=
  let place := base.size + slots.names.length
  let extended : Layout :=
    { size := if slots.weak then place + 1 else place
      dictionary := base.dictionary || slots.dictionary
      weak := if slots.weak then some place else base.weak
      decidedBy := base.decidedBy }
  if extended.differs decided then { extended with decidedBy := number } else extended

end SymbolReference

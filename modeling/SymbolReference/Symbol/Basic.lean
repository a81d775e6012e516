import SymbolReference.Mapping
import SymbolReference.Value.Equality

namespace SymbolReference

/-- A declared parameter of a function or method. The default counts only when one is declared. -/
structure Parameter where
  name : String
  byReference : Bool := false
  optional : Bool := false
  hasDefault : Bool := false
  default : Value := .none

/-- The declaring file and line range of a symbol. -/
structure Location where
  file : Option String
  startLine : Option Int := none
  endLine : Option Int := none
deriving Repr, DecidableEq

/-- What is declared about one symbol, its methods left out. The owner is the class of a method,
the value that of a constant. -/
structure Declaration where
  kind : Kind
  name : String
  owner : Option String := none
  parameters : List Parameter := []
  location : Option Location := none
  comment : Option String := none
  userDefined : Bool := true
  value : Value := .none

mutual

/-- A declared symbol with its declared methods, which may be missing. -/
inductive Symbol where
  | mk (declaration : Declaration) (methods : Option (List Entry))

/-- An entry of a list of symbols: a symbol, or some other value that has no place there. -/
inductive Entry where
  | symbol (s : Symbol)
  | other (v : Value)

end

instance : Inhabited Entry :=
  ⟨.other .none⟩

instance : Inhabited Symbol :=
  ⟨.mk { kind := .constant, name := "" } none⟩

namespace Symbol

/-- What is declared about a symbol. -/
def declaration : Symbol → Declaration
  | mk d _ => d

def methods : Symbol → Option (List Entry)
  | mk _ m => m

def kind (s : Symbol) : Kind := s.declaration.kind

def name (s : Symbol) : String := s.declaration.name

/-- Whether a symbol is declared by the inspected program and not by its host. -/
def userDefined (s : Symbol) : Bool := s.declaration.userDefined

/-- A symbol without methods. -/
def leaf (d : Declaration) : Symbol := mk d (some [])

def constant (name : String) (value : Value) : Symbol :=
  leaf { kind := .constant, name, value }

/-- The owner of a symbol. An empty owner counts as none. -/
def owner? (s : Symbol) : Option String :=
  s.declaration.owner.filter fun owner => !owner.isEmpty

def ownedBy (owner : String) : Symbol → Symbol
  | mk d m =>
    match (mk d m).owner? with
    | some _ => mk d m
    | none => mk { d with owner := some owner } m

end Symbol

/-- Whether two parameters are equal. -/
def Parameter.same (shared : Bool) (a b : Parameter) : Bool :=
  a.name == b.name && a.byReference == b.byReference && a.optional == b.optional &&
    a.hasDefault == b.hasDefault && Value.same shared a.default b.default

/-- Whether two lists are equal member by member. -/
def sameLists {α : Type} (same : α → α → Bool) : List α → List α → Bool
  | [], [] => true
  | a :: as, b :: bs => same a b && sameLists same as bs
  | _, _ => false

/-- Whether two declarations are equal. -/
def Declaration.same (shared : Bool) (a b : Declaration) : Bool :=
  a.kind == b.kind && a.name == b.name && a.owner == b.owner &&
    sameLists (Parameter.same shared) a.parameters b.parameters && a.location == b.location &&
    a.comment == b.comment && a.userDefined == b.userDefined && Value.same shared a.value b.value

mutual

/-- Whether two symbols are equal, their methods included. -/
def Symbol.same (shared : Bool) : Symbol → Symbol → Bool
  | .mk a m, .mk b n =>
    Declaration.same shared a b &&
      (match m, n with
        | none, none => true
        | some as, some bs => Entry.sameAll shared as bs
        | _, _ => false)

/-- Whether two entries are equal. -/
def Entry.same (shared : Bool) : Entry → Entry → Bool
  | .symbol a, .symbol b => Symbol.same shared a b
  | .other a, .other b => Value.same shared a b
  | _, _ => false

/-- Whether two lists of entries are equal. -/
def Entry.sameAll (shared : Bool) : List Entry → List Entry → Bool
  | [], [] => true
  | a :: as, b :: bs => Entry.same shared a b && Entry.sameAll shared as bs
  | _, _ => false

end

/-- What an inspection reports: function symbols by partition, classes, and constants by partition
and name. Whole collections and single partitions may be missing. -/
structure Inventory where
  functions : Option (Mapping (Option (List Entry)))
  classes : Option (List Entry)
  constants : Option (Mapping (Option (Mapping Value)))

/-- The partition of what the inspected program declares. -/
def userPartition : String := "user"

def hostPartition : String := "builtin"

end SymbolReference

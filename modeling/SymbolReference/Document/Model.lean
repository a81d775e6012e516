import SymbolReference.Comment.Parser
import SymbolReference.Document.Error
import SymbolReference.Symbol.Basic

namespace SymbolReference

/-- A symbol with its comment and the models of its methods. -/
inductive Model where
  | mk (symbol : Symbol) (comment : Comment) (methods : List Model)

instance : Inhabited Model :=
  ⟨.mk default Comment.empty []⟩

namespace Model

def symbol : Model → Symbol
  | mk s _ _ => s

def comment : Model → Comment
  | mk _ c _ => c

def methods : Model → List Model
  | mk _ _ m => m

def declaration (m : Model) : Declaration := m.symbol.declaration

def kind (m : Model) : Kind := m.symbol.kind

def name (m : Model) : String := m.symbol.name

/-- A model of a symbol. A method names the class that owns it, and only classes carry methods. -/
def make (symbol : Symbol) (comment : Comment) (methods : List Model) :
    Except DocumentError Model :=
  if symbol.kind = .method && symbol.owner?.isNone then .error (.ownerless symbol.name)
  else if !methods.isEmpty && symbol.kind ≠ .klass then
    .error (.strayMethods symbol.name symbol.kind)
  else .ok (mk symbol comment methods)

/-- Whether two comments, symbols and methods are equal. -/
def same (shared : Bool) : Model → Model → Bool
  | mk s c m, mk t d n => Symbol.same shared s t && c == d && sameAll shared m n
where
  /-- Whether two lists of models are equal. -/
  sameAll (shared : Bool) : List Model → List Model → Bool
    | [], [] => true
    | a :: as, b :: bs => same shared a b && sameAll shared as bs
    | _, _ => false

end Model

end SymbolReference

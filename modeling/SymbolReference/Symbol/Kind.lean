namespace SymbolReference

/-- What a documented symbol is. -/
inductive Kind where
  | function
  | klass
  | method
  | constant
deriving Repr, DecidableEq

namespace Kind

/-- The label of a kind, as pages and messages show it. -/
def label : Kind → String
  | function => "function"
  | klass => "class"
  | method => "method"
  | constant => "constant"

def capitals : Kind → String
  | function => "FUNCTION"
  | klass => "CLASS"
  | method => "METHOD"
  | constant => "CONSTANT"

def ofLabel? : String → Option Kind
  | "function" => some function
  | "class" => some klass
  | "method" => some method
  | "constant" => some constant
  | _ => none

/-- Functions and methods are called with arguments; classes and constants are shown without. -/
def isCallable : Kind → Bool
  | function | method => true
  | klass | constant => false

theorem ofLabel?_label (kind : Kind) : ofLabel? kind.label = some kind := by
  cases kind <;> rfl

end Kind

end SymbolReference

import SymbolReference.Text.Surrogate

namespace SymbolReference

/-- The code points of a text. Halves of surrogate pairs count as the code points they are. -/
def codePoints (s : String) : List Nat :=
  s.toList.map Text.codeOfChar

/-- Whether a member does not come after another by the code points of their names. -/
def nameLe {α : Type} (name : α → String) (a b : α) : Bool :=
  !decide (codePoints (name b) < codePoints (name a))

end SymbolReference

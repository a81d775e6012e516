namespace SymbolReference.Encoding

/-- A table of characters: the first code of every stretch and the characters from there on. -/
structure CharTable where
  stretches : Array (Nat × String)

namespace CharTable

/-- The character of a code. Only the last stretch that starts by then can have it. -/
def find? (t : CharTable) (code : Nat) : Option Char :=
  match t.stretches.toList.reverse.find? fun stretch => stretch.1 ≤ code with
  | none => none
  | some stretch => stretch.2.toList[code - stretch.1]?

def at? (t : CharTable) (row column : Nat) : Option Char :=
  if row < 256 && column < 256 then t.find? (256 * row + column) else none

def chars (t : CharTable) : List Char :=
  t.stretches.toList.flatMap fun stretch => stretch.2.toList

end CharTable

end SymbolReference.Encoding

import SymbolReference.Text.Blank

namespace SymbolReference.Text

/-- The lines of a text without their line breaks. A carriage return and a line feed that follow
each other are one break. -/
def lines : List Char → List (List Char)
  | [] => []
  | '\r' :: '\n' :: rest => [] :: lines rest
  | c :: rest =>
    if isLineBreak c then [] :: lines rest
    else
      match lines rest with
      | [] => [[c]]
      | line :: others => (c :: line) :: others

/-- The pieces of a text between the occurrences of one character. There is always at least one
piece. -/
def fields (separator : Char) : List Char → List (List Char)
  | [] => [[]]
  | c :: rest =>
    if c = separator then [] :: fields separator rest
    else
      match fields separator rest with
      | [] => [[c]]
      | field :: others => (c :: field) :: others

/-- The text made of pieces with a separator between any two neighbours. -/
def joined (separator : List Char) : List (List Char) → List Char
  | [] => []
  | [piece] => piece
  | piece :: others => piece ++ separator ++ joined separator others

@[simp] theorem joined_nil (separator : List Char) : joined separator [] = [] := rfl

@[simp] theorem joined_singleton (separator piece : List Char) :
    joined separator [piece] = piece := rfl

@[simp] theorem joined_cons_cons (separator piece next : List Char) (others : List (List Char)) :
    joined separator (piece :: next :: others) =
      piece ++ separator ++ joined separator (next :: others) := rfl

/-- Line ends in any of the three usual forms, each turned into one line feed. -/
def unixNewlines : List Char → List Char
  | [] => []
  | '\r' :: '\n' :: rest => '\n' :: unixNewlines rest
  | '\r' :: rest => '\n' :: unixNewlines rest
  | c :: rest => c :: unixNewlines rest

end SymbolReference.Text

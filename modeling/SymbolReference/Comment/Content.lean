import SymbolReference.Comment.Basic

/-!
The content lines of a raw comment.

A comment block opens with a slash and stars, closes with stars and a slash, and may start each
line with a star. `contentLines` removes these marks and the white space around every line. A text
without marks passes through with its lines trimmed.
-/

namespace SymbolReference.Comment

open Text

def dropStars (s : List Char) : List Char :=
  s.dropWhile (· = '*')

/-- Whether a text is one block whose opening and closing mark share their stars. -/
def isEmptyBlock (s : List Char) : Bool :=
  match trim s with
  | '/' :: '*' :: rest => dropStars rest == ['/']
  | _ => false

/-- Remove an opening mark, and the white space before it, from the front of a line. -/
def dropOpening (line : List Char) : List Char :=
  match trimLeft line with
  | '/' :: '*' :: rest => dropStars rest
  | _ => line

/-- Remove a closing mark, and the white space after it, from the end of a line. -/
def dropClosing (line : List Char) : List Char :=
  match (trimRight line).reverse with
  | '/' :: '*' :: rest => (dropStars rest).reverse
  | _ => line

/-- Remove the star at the front of a line, and the white space before it, unless a slash follows
it. -/
def dropMarker (line : List Char) : List Char :=
  match trimLeft line with
  | '*' :: '/' :: _ => line
  | '*' :: rest => rest
  | _ => line

def mapLast {α : Type} (f : α → α) : List α → List α
  | [] => []
  | [last] => [f last]
  | first :: second :: others => first :: mapLast f (second :: others)

def mapFirst {α : Type} (f : α → α) : List α → List α
  | [] => []
  | first :: others => f first :: others

/-- The lines of a raw comment without marks and without the white space around them. Lines without
content stay as empty lines. -/
def contentLines (raw : List Char) : List (List Char) :=
  if isEmptyBlock raw then []
  else
    (mapLast dropClosing (mapFirst dropOpening (lines raw))).map fun line =>
      trim (dropMarker line)

end SymbolReference.Comment

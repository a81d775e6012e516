import SymbolReference.Text.Words

namespace SymbolReference.Text

/-- Expand tabs to the next multiple of eight columns, from the given column on. Line feeds and
carriage returns start a new line. -/
def expandTabsFrom : Nat → List Char → List Char
  | _, [] => []
  | column, c :: rest =>
    if c = '\t' then
      let width := 8 - column % 8
      List.replicate width ' ' ++ expandTabsFrom (column + width) rest
    else if c = '\n' || c = '\r' then c :: expandTabsFrom 0 rest
    else c :: expandTabsFrom (column + 1) rest

def expandTabs (s : List Char) : List Char :=
  expandTabsFrom 0 s

def indentation? (line : List Char) : Option Nat :=
  let content := trimLeft line
  if content.isEmpty then none else some (line.length - content.length)

/-- The least indentation of the lines with content. -/
def margin? (lines : List (List Char)) : Option Nat :=
  (lines.filterMap indentation?).min?

def dropEmptyFront (lines : List (List Char)) : List (List Char) :=
  lines.dropWhile List.isEmpty

def dropEmptyEnds (lines : List (List Char)) : List (List Char) :=
  dropEmptyFront (dropEmptyFront lines.reverse).reverse

/-- Remove the indentation of a text. -/
def dedent (s : List Char) : List Char :=
  match fields '\n' (expandTabs s) with
  | [] => []
  | first :: others =>
    let shifted :=
      match margin? others with
      | none => others
      | some margin => others.map (List.drop margin)
    joined ['\n'] (dropEmptyEnds (trimLeft first :: shifted))

end SymbolReference.Text

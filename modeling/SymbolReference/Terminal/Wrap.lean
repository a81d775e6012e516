import SymbolReference.Terminal.Cluster
import SymbolReference.Text.Lines
import SymbolReference.Text.Words

namespace SymbolReference.Terminal

/-- What happens to a word that is longer than a line. -/
inductive Overflow where
  | fold
  | ellipsis
deriving Repr, DecidableEq

/-- Where a text stands on its line. `natural` adds no spaces. -/
inductive Alignment where
  | natural
  | left
  | center
  | right
deriving Repr, DecidableEq

/-- A text cut before every character that follows white space and is none. -/
def pieces : List Char → List (List Char)
  | [] => []
  | c :: rest =>
    match pieces rest with
    | [] => [[c]]
    | piece :: others =>
      if Text.isBlank c && !(piece.head?.any Text.isBlank) then [c] :: piece :: others
      else (c :: piece) :: others

/-- The words of a text with the white space after them. The first word keeps the white space
before it. A text without words has none. -/
def spacedWords (s : List Char) : List (List Char) :=
  match pieces s with
  | [] => []
  | first :: others =>
    if Text.allBlank first then
      match others with
      | [] => []
      | second :: others => (first ++ second) :: others
    else first :: others

/-- The finished lines, last one first, the line that is being filled, and the cells that its words
take one by one. -/
structure Filling where
  finished : List (List Char) := []
  line : List Char := []
  taken : Nat := 0

namespace Filling

/-- Start a new line, unless nothing has been placed yet. -/
def newLine (f : Filling) : Filling :=
  if f.finished.isEmpty && f.line.isEmpty then f else { finished := f.line :: f.finished }

/-- Add characters to the line. -/
def put (f : Filling) (s : List Char) : Filling :=
  { f with line := f.line ++ s, taken := f.taken + cells s }

/-- Fold a word over lines. A word whose clusters take no cell stays where it is. -/
def fold (width : Nat) (f : Filling) (word : List Char) : Filling :=
  if clusterCells (clusters word) = 0 then { f with line := f.line ++ word }
  else (parts width word).foldl (fun f part => f.newLine.put part) f

def place (width : Nat) (overflow : Overflow) (f : Filling) (word : List Char) : Filling :=
  let size := cells (Text.trimRight word)
  -- The white space after a word may hang over the end of the line.
  if f.taken + size ≤ width then f.put word
  else if width < size && overflow = .fold then f.fold width word
  else f.newLine.put word

/-- The lines from first to last. -/
def lines (f : Filling) : List (List Char) :=
  (f.line :: f.finished).reverse

end Filling

def fillLines (width : Nat) (overflow : Overflow) (s : List Char) : List (List Char) :=
  match spacedWords s with
  | [] => [s]
  | words => (words.foldl (Filling.place width overflow) {}).lines

/-- A line without the white space at its end that lies beyond a number of characters. -/
def dropExcess (width : Nat) (line : List Char) : List Char :=
  let blanks := line.length - (Text.trimRight line).length
  line.take (line.length - min blanks (line.length - width))

/-- A line cut to a number of cells. -/
def truncate (width : Nat) (overflow : Overflow) (line : List Char) :
    Except CutError (List Char) :=
  if cells line ≤ width then .ok line
  else
    match overflow with
    | .fold => crop width line
    | .ellipsis => (crop (width - 1) line).map (· ++ ['…'])

/-- A line put in its place among a number of cells. -/
def align (width : Nat) (overflow : Overflow) (alignment : Alignment) (line : List Char) :
    Except CutError (List Char) :=
  match alignment with
  | .natural => .ok line
  | .left => if cells line < width then .ok (fill width line) else truncate width overflow line
  | .right => do
    let cut ← truncate width overflow (Text.trimRight line)
    return List.replicate (width - cells cut) ' ' ++ cut
  | .center => do
    let cut ← truncate width overflow (Text.trimRight line)
    return fill width (List.replicate ((width - cells cut) / 2) ' ' ++ cut)

def tabDistance : Nat := 8

/-- The spaces for the tab after each field but the last one, when the first field begins in a
column: one and further ones up to the next stop. -/
def tabWidths : Nat → List (List Char) → List Nat
  | column, field :: next :: others =>
    let reached := column + cells (field ++ [' '])
    let missing := (tabDistance - reached % tabDistance) % tabDistance
    (1 + missing) :: tabWidths (reached + missing) (next :: others)
  | _, _ => []

def spacedFields : List (List Char) → List Nat → List Char
  | field :: others, width :: widths => field ++ List.replicate width ' ' ++
      spacedFields others widths
  | fields, [] => fields.flatten
  | [], _ => []

def withoutTabs (line : List Char) : List Char :=
  let fields := Text.fields '\t' line
  spacedFields fields (tabWidths 0 fields)

/-- Where a position among fields with a tab after each lies when there are numbers of spaces
between them. -/
def spacedPosition : List (List Char) → List Nat → Nat → Nat
  | field :: others, width :: widths, position =>
    if position ≤ field.length then position
    else field.length + width + spacedPosition others widths (position - field.length - 1)
  | _, _, position => position

/-- Where a position in a line lies when there are spaces in place of the tabs. -/
def positionWithoutTabs (line : List Char) (position : Nat) : Nat :=
  let fields := Text.fields '\t' line
  spacedPosition fields (tabWidths 0 fields) position

/-- The lines of a text at a width. -/
def wrap (width : Nat) (overflow : Overflow) (alignment : Alignment) (s : List Char) :
    Except CutError (List (List Char)) :=
  ((Text.fields '\n' s).flatMap fun line => fillLines width overflow (withoutTabs line)).mapM
    fun filled => do
      truncate width overflow (← align width overflow alignment (dropExcess width filled))

end SymbolReference.Terminal

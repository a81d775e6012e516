import SymbolReference.Terminal.Highlight
import SymbolReference.Terminal.Wrap

/-!
Texts that are printed part by part.

Words are placed by the cells that they take as a whole. The finished line is then measured part by
part: a joiner or a selector at the beginning of a part does nothing to the part before it, so a
line that fitted can be too long, and is cut.
-/

namespace SymbolReference.Terminal

open Text (Extent)

/-- The positions after the tabs of a text that begins at a position. -/
def tabEnds : Nat → List Char → List Nat
  | _, [] => []
  | position, c :: rest =>
    if c = '\t' then (position + 1) :: tabEnds (position + 1) rest else tabEnds (position + 1) rest

/-- Where the parts of a text begin: at both ends of every extent, and after every tab inside of
one. -/
def partStarts (extents : List Extent) (s : List Char) : List Nat :=
  let tabs := tabEnds 0 s
  extents.flatMap fun e =>
    e.start :: e.stop :: tabs.filter fun position => e.start < position && position ≤ e.stop

/-- The parts of a text that begins at a position. -/
def cutAt (starts : List Nat) : Nat → List Char → List (List Char)
  | _, [] => []
  | position, c :: rest =>
    match cutAt starts (position + 1) rest with
    | [] => [[c]]
    | part :: others =>
      if starts.contains (position + 1) then [c] :: part :: others else (c :: part) :: others

def cellCount (parts : List (List Char)) : Nat :=
  parts.foldl (fun count part => count + cells part) 0

/-- The beginning of some parts that takes at most a number of cells. -/
def cropParts : Nat → List (List Char) → Except CutError (List (List Char))
  | _, [] => .ok []
  | width, part :: others =>
    if cells part < width then
      (cropParts (width - cells part) others).map (part :: ·)
    else (crop width part).map ([·])

def fitParts (width : Nat) (parts : List (List Char)) : Except CutError (List (List Char)) :=
  if cellCount parts ≤ width then .ok parts else cropParts width parts

/-- Texts with the positions at which they begin, when the first one begins at a position and there
are so many characters between any two. -/
def placed (gap : Nat) : Nat → List (List Char) → List (Nat × List Char)
  | _, [] => []
  | start, s :: others => (start, s) :: placed gap (start + s.length + gap) others

def positionsFrom (start : Nat) (positions : List Nat) : List Nat :=
  positions.filterMap fun position => if start < position then some (position - start) else none

/-- The lines of a text at a width, whose parts begin at some positions. -/
def partedLines (width : Nat) (starts : List Nat) (s : List Char) :
    Except CutError (List (List (List Char))) :=
  let filled := (placed 1 0 (Text.fields '\n' s)).flatMap fun (start, line) =>
    let starts := (positionsFrom start starts).map (positionWithoutTabs line)
    (placed 0 0 (fillLines width .fold (withoutTabs line))).map fun (start, filled) =>
      (positionsFrom start starts, filled)
  filled.mapM fun (starts, line) =>
    (truncate width .fold (dropExcess width line)).map (cutAt starts 0)

/-- Nothing is lost in parts. -/
theorem flatten_cutAt (starts : List Nat) (position : Nat) (s : List Char) :
    (cutAt starts position s).flatten = s := by
  induction s generalizing position with
  | nil => rfl
  | cons c rest ih =>
      have tail := ih (position + 1)
      rw [cutAt]
      split
      · rename_i none
        rw [none] at tail
        simp_all
      · rename_i part others found
        rw [found] at tail
        split <;> simp_all

end SymbolReference.Terminal

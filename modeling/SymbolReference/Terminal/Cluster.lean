import SymbolReference.Terminal.Cells

/-!
Clusters: the parts of a text that are drawn as one.

A character that takes cells begins a cluster. Marks, selectors and what a joiner draws in stay in
the cluster before them. Cutting a text never cuts a cluster: one that would be cut in half gives
way to a space.
-/

namespace SymbolReference.Terminal

/-- Characters that are drawn as one, and the number of cells they take. -/
structure Cluster where
  chars : List Char
  size : Nat
deriving Repr, DecidableEq

/-- A cluster that is being built, last character first, with one more character and further
cells. -/
def Cluster.push (k : Cluster) (c : Char) (size : Nat := 0) : Cluster where
  chars := c :: k.chars
  size := k.size + size

/-- A cluster that was built, first character first. -/
def Cluster.finish (k : Cluster) : Cluster :=
  { k with chars := k.chars.reverse }

/-- The clusters of the rest of a text after those built so far, last one first. `before` is the
last character that took cells and has not been coloured. -/
def clustersFrom (before : Option Char) : List Cluster → List Char → List Cluster
  | built, [] => built.reverse
  | [], c :: rest =>
    clustersFrom (if charCells c = 0 then none else some c) [⟨[c], charCells c⟩] rest
  | last :: built, c :: rest =>
    if c = joiner then
      -- The character after a joiner is drawn in, whatever it is.
      match rest with
      | [] => (last.push c :: built).reverse
      | d :: rest => clustersFrom before ((last.push c).push d :: built) rest
    else if c = colourSelector && before.any isColourable then
      clustersFrom none (last.push c 1 :: built) rest
    else if charCells c = 0 then clustersFrom before (last.push c :: built) rest
    else clustersFrom (some c) (⟨[c], charCells c⟩ :: last :: built) rest

def clusters (s : List Char) : List Cluster :=
  (clustersFrom none [] s).map Cluster.finish

def clusterCells : List Cluster → Nat
  | [] => 0
  | k :: others => k.size + clusterCells others

/-- The beginning of some clusters that takes a number of cells, unless all of them take fewer. A
space stands for the half of a wide cluster. -/
def fitting? : Nat → List Cluster → Option (List Char)
  | 0, _ => some []
  | _, [] => none
  | width, k :: others =>
    if k.size ≤ width then (fitting? (width - k.size) others).map (k.chars ++ ·) else some [' ']

/-- Why a text cannot be cut. A text that begins with two joiners takes more cells than its
clusters: they may end before the cut, or take no cell at all. -/
inductive CutError where
  | beyondEnd
  | noCells
deriving Repr, DecidableEq

def CutError.message : CutError → String
  | beyondEnd => "list index out of range"
  | noCells => "division by zero"

/-- A text cut to a number of cells. -/
def crop (width : Nat) (s : List Char) : Except CutError (List Char) :=
  if width = 0 then .ok []
  else if cells s ≤ width then .ok s
  else
    let ks := clusters s
    if clusterCells ks = 0 then .error .noCells
    else
      match fitting? width ks with
      | some cut => .ok cut
      | none => .error .beyondEnd

/-- Clusters in parts of at most a number of cells, after the part begun so far, which is given by
its characters and its size. -/
def partsFrom (width : Nat) (part : List Char) (size : Nat) : List Cluster → List (List Char)
  | [] => [part]
  | k :: others =>
    if width < size + k.size then part :: partsFrom width k.chars k.size others
    else partsFrom width (part ++ k.chars) (size + k.size) others

/-- A text in parts of at most a number of cells. -/
def parts (width : Nat) (s : List Char) : List (List Char) :=
  partsFrom width [] 0 (clusters s)

theorem isSome_fitting? {width : Nat} {ks : List Cluster} (enough : width ≤ clusterCells ks) :
    (fitting? width ks).isSome := by
  induction ks generalizing width with
  | nil =>
      obtain rfl : width = 0 := by simpa [clusterCells] using enough
      rfl
  | cons k others ih =>
      cases width with
      | zero => rfl
      | succ width =>
          simp only [clusterCells] at enough
          rw [fitting?]
          split
          · simpa using ih (by omega)
          · rfl
          · simp

/-- Nothing is lost in parts. -/
theorem flatten_partsFrom (width : Nat) (part : List Char) (size : Nat) (ks : List Cluster) :
    (partsFrom width part size ks).flatten = part ++ ks.flatMap Cluster.chars := by
  induction ks generalizing part size with
  | nil => simp [partsFrom]
  | cons k others ih =>
      rw [partsFrom]
      split
      · simp [ih]
      · simp [ih, List.append_assoc]

end SymbolReference.Terminal

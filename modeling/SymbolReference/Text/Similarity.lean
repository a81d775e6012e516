namespace SymbolReference.Text

/-- The length of the longest common beginning of two texts. -/
def commonStart : List Char → List Char → Nat
  | a :: s, b :: t => if a = b then commonStart s t + 1 else 0
  | _, _ => 0

/-- A run that two texts have in common: where it starts in each of them, and its length. -/
structure CommonRun where
  left : Nat := 0
  right : Nat := 0
  size : Nat := 0
deriving Repr, DecidableEq

/-- The longest common run of two texts. Of several it is the first one in the first text, and then
in the second. -/
def longestRun (s t : List Char) : CommonRun :=
  (List.range s.length).foldl
    (fun best i =>
      (List.range t.length).foldl
        (fun best j =>
          let size := commonStart (s.drop i) (t.drop j)
          if best.size < size then { left := i, right := j, size } else best)
        best)
    {}

/-- The number of characters that match, by at most `fuel` runs one inside the rest of the other. -/
def matchingIn : Nat → List Char → List Char → Nat
  | 0, _, _ => 0
  | fuel + 1, s, t =>
    let run := longestRun s t
    if run.size = 0 then 0
    else
      matchingIn fuel (s.take run.left) (t.take run.right) + run.size +
        matchingIn fuel (s.drop (run.left + run.size)) (t.drop (run.right + run.size))

/-- The number of characters of two texts that match. -/
def matching (s t : List Char) : Nat :=
  matchingIn s.length s t

/-- A name and how well it matches a word: twice `matched` of the `total` characters of both. -/
structure Candidate where
  name : String
  matched : Nat
  total : Nat
deriving Repr, DecidableEq

def Candidate.of (word name : String) : Candidate where
  name := name
  matched := matching name.toList word.toList
  total := name.length + word.length

/-- Whether a candidate is close: at least six characters out of ten match. -/
def Candidate.isClose (c : Candidate) : Bool :=
  6 * c.total ≤ 20 * c.matched

/-- Whether a candidate comes before another one: it matches better, or as well with a greater
name. -/
def Candidate.comesBefore (a b : Candidate) : Bool :=
  if a.matched * b.total = b.matched * a.total then decide (b.name ≤ a.name)
  else decide (b.matched * a.total < a.matched * b.total)

/-- Whether a name may be close to a word, going by their lengths: no more characters match than the
shorter one has. -/
def mayBeClose (word name : String) : Bool :=
  6 * (name.length + word.length) ≤ 20 * min name.length word.length

/-- The names that are close to a word, at most three, the best one first. -/
def closeNames (word : String) (names : List String) : List String :=
  let candidates := (names.filter (mayBeClose word)).map (Candidate.of word)
  (((candidates.filter Candidate.isClose).mergeSort Candidate.comesBefore).take 3).map
    Candidate.name

end SymbolReference.Text

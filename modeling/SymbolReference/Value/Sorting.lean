namespace SymbolReference

variable {α ε : Type} (less : α → α → Except ε Bool)

/-- Take the elements that go on with a run, which is given with its last element first. In a run
that falls every element is less than the one before it, in a run that rises none is. -/
def takeRun (falls : Bool) (last : α) (run : List α) : List α → Except ε (List α × List α)
  | [] => .ok (last :: run, [])
  | x :: others => do
    if (← less x last) = falls then takeRun falls x (last :: run) others
    else return (last :: run, x :: others)

/-- Put an element in its place among those that are in order, behind the ones it equals. -/
def insertByHalves (x : α) (placed : List α) : Except ε (List α) :=
  match _hhalf : placed.drop (placed.length / 2) with
  | [] => .ok [x]
  | middle :: after => do
    if ← less x middle then
      return (← insertByHalves x (placed.take (placed.length / 2))) ++ middle :: after
    else return placed.take (placed.length / 2) ++ middle :: (← insertByHalves x after)
termination_by placed.length
decreasing_by
  · have hlength := congrArg List.length _hhalf
    simp only [List.length_drop, List.length_cons] at hlength
    simp only [List.length_take]
    omega
  · have hlength := congrArg List.length _hhalf
    simp only [List.length_drop, List.length_cons] at hlength
    omega

/-- The elements in order, by a comparison that may fail. The run at the front is found first, then
each element behind it is put in its place. Which elements are compared depends on the order in which
they are given, and so does whether a comparison fails. -/
def sortBy : List α → Except ε (List α)
  | [] => .ok []
  | [x] => .ok [x]
  | x :: y :: others => do
    let falls ← less y x
    let (run, rest) ← takeRun less falls y [x] others
    rest.foldlM (fun placed z => insertByHalves less z placed) (if falls then run else run.reverse)

end SymbolReference

import SymbolReference.Yaml.Node

/-!
Merge keys.

A merge key brings the entries of other mappings into a mapping, before its own entries, so that
own entries win. The mappings that are brought in are resolved first. A mapping that is reached
again while it is being resolved, because it is merged into itself, gives the entries it has at
that moment.
-/

namespace SymbolReference.Yaml

/-- A step that changes the nodes of a document. -/
abbrev Merge := StateT (Array Node) (Except Error)

namespace Merge

def node (number : Nat) : Merge Node := do
  match (← get)[number]? with
  | some n => return n
  | none => throw .malformed

def entries (number : Nat) : Merge (List (Nat × Nat)) := do
  match ← node number with
  | .mapping _ entries => return entries
  | _ => throw .malformed

/-- Give a mapping other entries. -/
def setEntries (number : Nat) (entries : List (Nat × Nat)) : Merge Unit := do
  match ← node number with
  | .mapping tag _ => modify fun nodes => nodes.setIfInBounds number (.mapping tag entries)
  | _ => throw .malformed

mutual

def resolve : Nat → Nat → Merge Unit
  | 0, _ => throw .malformed
  | fuel + 1, number => resolveFrom fuel number 0 []

/-- Resolve the merge keys of a mapping from an entry on, given the entries brought in so far. An
equals sign as a key becomes an ordinary string. -/
def resolveFrom : Nat → Nat → Nat → List (Nat × Nat) → Merge Unit
  | 0, _, _, _ => throw .malformed
  | fuel + 1, number, index, merged => do
    let own ← entries number
    match own[index]? with
    -- The last entry of a key counts: the own ones come after those brought in.
    | none => if merged.isEmpty then return else setEntries number (merged ++ own)
    | some (key, value) =>
      match (← node key).tag with
      | .merge =>
        setEntries number (own.eraseIdx index)
        match ← node value with
        | .mapping _ _ =>
          resolve fuel value
          resolveFrom fuel number index (merged ++ (← entries value))
        | .sequence _ items =>
          let parts ← items.mapM fun item => do
            resolve fuel item
            entries item
          -- Of several mappings the first one counts most, so it comes last.
          resolveFrom fuel number index (merged ++ parts.reverse.flatten)
        | .scalar _ _ => throw .malformed
      | .value =>
        modify fun nodes => nodes.modify key (Node.withTag .str)
        resolveFrom fuel number (index + 1) merged
      | _ => resolveFrom fuel number (index + 1) merged

end

/-- How often the entries of other mappings are brought in by an entry: once for a mapping, once
for each item of a sequence. -/
def sources (nodes : Array Node) (entry : Nat × Nat) : Nat :=
  match nodes[entry.1]?.map Node.tag, nodes[entry.2]? with
  | some .merge, some (.sequence _ items) => items.length + 1
  | some .merge, _ => 1
  | _, _ => 0

/-- Steps that always suffice to resolve a mapping: every merge key multiplies the entries at most
by the number of its sources and one more, and no more mappings are resolved one inside the other
than there are merge keys. -/
def bound (nodes : Array Node) : Nat :=
  let all := nodes.toList.flatMap fun n =>
    match n with
    | .mapping _ entries => entries
    | _ => []
  let factors := all.map fun entry => sources nodes entry + 1
  (nodes.size + 2) * (all.length + 2) * factors.foldl (· * ·) 2

/-- Resolve the merge keys of a mapping and give its entries. -/
def resolved (number : Nat) : Merge (List (Nat × Nat)) := do
  resolve (bound (← get)) number
  entries number

end Merge

end SymbolReference.Yaml

import SymbolReference.Value.Equality
import SymbolReference.Yaml.Merge

/-!
The value of a YAML document.

A node becomes one object, however often it is referred to. A scalar is read when its node is
first reached; a collection starts empty and gets its parts later, in the order in which the
collections were reached. So of several faulty scalars the one nearest to the root is reported.
Mappings become dictionaries, whose keys must be scalars.
-/

namespace SymbolReference.Yaml

/-- The object of a node. The parts of a collection are given by the numbers of their nodes. -/
inductive Object where
  | atom (v : Value)
  | list (items : List Nat)
  | pairs (items : List (Nat × Nat))
  | dict (entries : List (Value × Nat))
  | set (members : List Value)

/-- The nodes of a document, the objects made so far by the numbers of their nodes, and the
collections in the order in which they were reached. -/
structure Building where
  nodes : Array Node
  objects : Array (Option Object)
  reached : Array Nat := #[]

/-- A step that makes objects. -/
abbrev Build := StateT Building (Except Error)

namespace Build

/-- Work on the nodes alone. -/
def onNodes {α : Type} (step : Merge α) : Build α := do
  let s ← get
  let (result, nodes) ← step.run s.nodes
  set { s with nodes }
  return result

def node (number : Nat) : Build Node := onNodes (Merge.node number)

/-- Set the object of a node. -/
def put (number : Nat) (object : Object) : Build Unit :=
  modify fun s => { s with objects := s.objects.setIfInBounds number (some object) }

/-- The text of a scalar. A mapping stands for the value of its key of the type `value`. -/
def scalarText : Nat → Nat → Build String
  | 0, _ => throw .endless
  | fuel + 1, number => do
    match ← node number with
    | .scalar _ text => return text
    | .sequence _ _ => throw .malformed
    | .mapping _ entries =>
      let nodes := (← get).nodes
      match entries.find? fun entry => (nodes[entry.1]?.map Node.tag) = some .value with
      | some (_, value) => scalarText fuel value
      | none => throw .malformed

def scalarValue (tag : Tag) (text : String) : Except Error Value :=
  match tag with
  | .null => .ok .none
  | .bool => truthValue text
  | .int => wholeNumber text
  | .float => decimalNumber text
  | .binary => binaryValue text
  | .timestamp => timestampValue text
  | .str => .ok (.str text)
  | _ => .error .malformed

/-- Make the object of a node, if it is not made yet. A collection is noted to be filled later. -/
def reach (number : Nat) : Build Unit := do
  let s ← get
  if (s.objects[number]?.join).isSome then return
  let start := fun (object : Object) => do
    put number object
    modify fun s => { s with reached := s.reached.push number }
  let n ← node number
  match n.tag with
  | .seq => start (.list [])
  | .omap | .pairs => start (.pairs [])
  | .map => start (.dict [])
  | .set => start (.set [])
  | tag =>
    if tag = .merge || tag = .value || tag = .other then throw .malformed
    let text ← scalarText (s.nodes.size + 1) number
    match tag, n with
    | .timestamp, .mapping _ _ => throw .timestampEntries
    | _, _ => put number (.atom (← scalarValue tag text))

/-- A key of a dictionary: its value, and the number of the object it is. -/
structure Key where
  value : Value
  object : Nat

/-- Whether two keys are equal. An object always equals itself. -/
def Key.same (a b : Key) : Bool :=
  a.object == b.object || Value.same false a.value b.value

/-- The key that a node stands for, which must be a scalar. All nodes that name what is no number
are one object, which is given the first number after those of the nodes. -/
def key (number : Nat) : Build Key := do
  reach number
  let s ← get
  match s.objects[number]?.join, ← node number with
  | some (.atom v), .scalar .float text =>
    return { value := v, object := if isNoNumber text then s.nodes.size else number }
  | some (.atom v), _ => return { value := v, object := number }
  | _, _ => throw .malformed

def items (number : Nat) : Build (List Nat) := do
  match ← node number with
  | .sequence _ items => return items
  | _ => throw .malformed

/-- Add an entry. A key that is present keeps its place and takes the new value. -/
def insertKey (entries : List (Key × Nat)) (name : Key) (value : Nat) : List (Key × Nat) :=
  if entries.any fun entry => entry.1.same name then
    entries.map fun entry => if entry.1.same name then (entry.1, value) else entry
  else entries ++ [(name, value)]

/-- The entries of a mapping after merge keys are resolved. A repeated key keeps its place and
takes the last value. -/
def entries (number : Nat) : Build (List (Value × Nat)) := do
  let found ← onNodes (Merge.resolved number)
  let built ← found.foldlM
    (fun built entry => do
      let name ← key entry.1
      reach entry.2
      return insertKey built name entry.2)
    []
  return built.map fun entry => (entry.1.value, entry.2)

/-- Reach both parts of the only entry of a mapping. -/
def pair (number : Nat) : Build (Nat × Nat) := do
  match ← node number with
  | .mapping _ [entry] =>
    reach entry.1
    reach entry.2
    return entry
  | _ => throw .malformed

/-- Fill the collection of a node. -/
def fill (number : Nat) : Build Unit := do
  match (← get).objects[number]?.join with
  | some (.list _) =>
    let found ← items number
    found.forM reach
    put number (.list found)
  | some (.pairs _) => put number (.pairs (← (← items number).mapM pair))
  | some (.dict _) => put number (.dict (← entries number))
  | some (.set _) => put number (.set ((← entries number).map Prod.fst))
  | _ => return

/-- Fill the collections from a place in their order on. -/
def fillFrom : Nat → Nat → Build Unit
  | 0, _ => return
  | fuel + 1, place => do
    match (← get).reached[place]? with
    | none => return
    | some number =>
      fill number
      fillFrom fuel (place + 1)

/-- Make the objects of a document. -/
def all (root : Nat) : Build Unit := do
  reach root
  fillFrom ((← get).nodes.size + 1) 0

end Build

/-- The values of objects that are part of no cycle, kept for further references. -/
abbrev Unfold := StateM (Array (Option Value))

/-- The value of an object, by at most `fuel` nested objects. An object inside itself becomes a
cycle; `path` lists the objects around the place. The flag tells that no cycle was met. -/
def unfold (objects : Array (Option Object)) : Nat → List Nat → Nat → Unfold (Value × Bool)
  | 0, _, _ => return (.none, false)
  | fuel + 1, path, number => do
    match (← get)[number]?.join with
    | some v => return (v, true)
    | none =>
      let part := unfold objects fuel (number :: path)
      let (v, closed) ←
        match objects[number]?.join with
        | none => pure (.none, true)
        | some (.atom v) => pure (v, true)
        | some (.set members) => pure (.set members, true)
        | some (.list items) =>
          if path.contains number then pure (.cycle false, false)
          else do
            let parts ← items.mapM part
            pure (.list (parts.map Prod.fst), parts.all Prod.snd)
        | some (.pairs items) =>
          if path.contains number then pure (.cycle false, false)
          else do
            let parts ← items.mapM fun item => do
              let (a, closedA) ← part item.1
              let (b, closedB) ← part item.2
              return (Value.tuple [a, b], closedA && closedB)
            pure (.list (parts.map Prod.fst), parts.all Prod.snd)
        | some (.dict entries) =>
          if path.contains number then pure (.cycle true, false)
          else do
            let parts ← entries.mapM fun entry => do
              let (v, closed) ← part entry.2
              return ((entry.1, v), closed)
            pure (.dict (parts.map Prod.fst), parts.all Prod.snd)
      -- What lies on a cycle looks different from another place, so it is not kept.
      if closed then modify fun known => known.setIfInBounds number (some v)
      return (v, closed)

def Graph.value (g : Graph) : Except Error Value := do
  let blank := Array.replicate g.nodes.size none
  let (_, built) ← (Build.all g.root).run { nodes := g.nodes, objects := blank }
  let known := Array.replicate g.nodes.size none
  return ((unfold built.objects (g.nodes.size + 2) [] g.root).run known).1.1

/-- The value of a YAML text with at most one document. A text without a document stands for
nothing. -/
def load (text : String) : Except Error Value := do
  match ← Graph.read text.toList with
  | none => return .none
  | some g => g.value

end SymbolReference.Yaml

import SymbolReference.Yaml.Scalar
import SymbolReference.Yaml.Token

namespace SymbolReference.Yaml

/-- A node of a document. The parts of a collection are given by their numbers. -/
inductive Node where
  | scalar (tag : Tag) (text : String)
  | sequence (tag : Tag) (items : List Nat)
  | mapping (tag : Tag) (entries : List (Nat × Nat))
deriving Repr, DecidableEq

namespace Node

def tag : Node → Tag
  | scalar tag _ | sequence tag _ | mapping tag _ => tag

/-- The node with another type. -/
def withTag (tag : Tag) : Node → Node
  | scalar _ text => scalar tag text
  | sequence _ items => sequence tag items
  | mapping _ entries => mapping tag entries

/-- The node where nothing is written. -/
def empty : Node := scalar .null ""

end Node

/-- The state of the grouping: the scan of the text, the nodes so far, the anchors and the tag
handles. -/
structure Grouping where
  scan : Scan
  nodes : Array Node := #[]
  anchors : List (String × Nat) := []
  handles : List (String × String) := [("!", "!"), ("!!", Tag.space)]

abbrev Group := StateT Grouping (Except Error)

namespace Group

def peek : Group (Option Token) := do
  let (next, scan) ← (← get).scan.next?
  modify fun s => { s with scan }
  return next

/-- Pass the next token. -/
def advance : Group Unit :=
  modify fun s => { s with scan := { s.scan with taken := s.scan.taken + 1 } }

/-- Fail. -/
def malformed {α : Type} : Group α := throw .malformed

/-- Whether the text has no further token. -/
def atEnd : Group Bool := return (← peek).isNone

def atOneOf (candidates : List Token) : Group Bool := do
  match ← peek with
  | none => return false
  | some t => return candidates.contains t

/-- Pass the next token, which must be the given one. -/
def expect (t : Token) : Group Unit := do
  if ← atOneOf [t] then advance else malformed

/-- Pass the next token if it is the given one. -/
def accept (t : Token) : Group Bool := do
  if ← atOneOf [t] then
    advance
    return true
  else return false

def add (n : Node) : Group Nat := do
  let number := (← get).nodes.size
  modify fun s => { s with nodes := s.nodes.push n }
  return number

def put (number : Nat) (n : Node) : Group Unit :=
  modify fun s => { s with nodes := s.nodes.setIfInBounds number n }

def bind (anchor : Option String) (number : Nat) : Group Unit :=
  match anchor with
  | none => return
  | some name => modify fun s => { s with anchors := (name, number) :: s.anchors }

def anchor? : Group (Option String) := do
  match ← peek with
  | some (.anchor name) =>
    advance
    return some name
  | _ => return none

def tag? : Group (Option TagText) := do
  match ← peek with
  | some (.tag text) =>
    advance
    return some text
  | _ => return none

def tagName (text : TagText) : Group String := do
  match text.handle with
  | none => return text.suffix
  | some handle =>
    match (← get).handles.lookup handle with
    | none => malformed
    | some start => return start ++ text.suffix

/-- Read the properties of a node: an anchor and a tag in either order. -/
def properties : Group (Option String × Option String) := do
  match ← anchor? with
  | some name => return (some name, ← (← tag?).mapM tagName)
  | none =>
    match ← tag? with
    | none => return (none, none)
    | some text =>
      let anchor ← anchor?
      return (anchor, some (← tagName text))

def collectionTag (tag : Option String) (usual : Tag) : Tag :=
  match tag with
  | none => usual
  | some "!" => usual
  | some name => .ofName name

/-- The type of a scalar. Without a tag a plain text decides it itself and any other text is a
string; the tag of a single exclamation mark lets every text decide. -/
def scalarTag (tag : Option String) (text : String) (plain : Bool) : Tag :=
  match tag with
  | none => if plain then plainTag text else .str
  | some "!" => plainTag text
  | some name => .ofName name

mutual

/-- Read a node and give its number. Block collections are allowed where `block` says so; a
sequence without an indentation of its own where `indentless` does. An anchor that is in use is
refused. -/
def node (block indentless : Bool) : Nat → Group Nat
  | 0 => malformed
  | fuel + 1 => do
    match ← peek with
    | some (.alias name) =>
      advance
      match (← get).anchors.lookup name with
      | none => malformed
      | some number => return number
    | _ =>
      let (anchor, tag) ← properties
      let next ← peek
      if let some name := anchor then
        if ((← get).anchors.lookup name).isSome then malformed
      match next with
      | some .blockEntry =>
        if indentless then sequence anchor tag (indentlessItems fuel) else bare anchor tag
      | some (.scalar text plain) =>
        advance
        leaf anchor (.scalar (scalarTag tag text plain) text)
      | some .flowSequenceStart =>
        advance
        sequence anchor tag (flowItems true fuel)
      | some .flowMappingStart =>
        advance
        mapping anchor tag (flowEntries true fuel)
      | some .blockSequenceStart =>
        if block then
          advance
          sequence anchor tag (blockItems fuel)
        else bare anchor tag
      | some .blockMappingStart =>
        if block then
          advance
          mapping anchor tag (blockEntries fuel)
        else bare anchor tag
      | _ => bare anchor tag
where
  /-- Add a node without parts. -/
  leaf (anchor : Option String) (n : Node) : Group Nat := do
    let number ← add n
    bind anchor number
    return number
  /-- A node with properties and no content. -/
  bare (anchor tag : Option String) : Group Nat :=
    if anchor.isNone && tag.isNone then malformed
    else leaf anchor (.scalar (scalarTag tag "" tag.isNone) "")
  /-- A sequence, which its anchor names from its start on. -/
  sequence (anchor tag : Option String) (items : Group (List Nat)) : Group Nat := do
    let tag := collectionTag tag .seq
    let number ← leaf anchor (.sequence tag [])
    put number (.sequence tag (← items))
    return number
  /-- A mapping, which its anchor names from its start on. -/
  mapping (anchor tag : Option String) (entries : Group (List (Nat × Nat))) : Group Nat := do
    let tag := collectionTag tag .map
    let number ← leaf anchor (.mapping tag [])
    put number (.mapping tag (← entries))
    return number

def nodeBefore (block indentless : Bool) (stops : List Token) : Nat → Group Nat
  | 0 => malformed
  | fuel + 1 => do
    if ← atOneOf stops then add .empty else node block indentless fuel

def blockItems : Nat → Group (List Nat)
  | 0 => malformed
  | fuel + 1 => do
    if ← accept .blockEntry then
      let item ← nodeBefore true false [.blockEntry, .blockEnd] fuel
      return item :: (← blockItems fuel)
    else
      expect .blockEnd
      return []

/-- The items of a sequence that has no indentation of its own. -/
def indentlessItems : Nat → Group (List Nat)
  | 0 => malformed
  | fuel + 1 => do
    if ← accept .blockEntry then
      let item ← nodeBefore true false [.blockEntry, .key, .value, .blockEnd] fuel
      return item :: (← indentlessItems fuel)
    else return []

/-- The value after a key, or the empty node. -/
def valueBefore (block : Bool) (stops : List Token) : Nat → Group Nat
  | 0 => malformed
  | fuel + 1 => do
    if ← accept .value then nodeBefore block block stops fuel else add .empty

def blockEntries : Nat → Group (List (Nat × Nat))
  | 0 => malformed
  | fuel + 1 => do
    if ← accept .blockEnd then return []
    else
      expect .key
      let name ← nodeBefore true true [.key, .value, .blockEnd] fuel
      let value ← valueBefore true [.key, .value, .blockEnd] fuel
      return (name, value) :: (← blockEntries fuel)

/-- The items of a flow sequence up to its end. An item with a key is a mapping of one entry. -/
def flowItems (first : Bool) : Nat → Group (List Nat)
  | 0 => malformed
  | fuel + 1 => do
    if ← accept .flowSequenceEnd then return []
    else
      if !first then expect .flowEntry
      if ← accept .key then
        let number ← add (.mapping .map [])
        let name ← nodeBefore false false [.value, .flowEntry, .flowSequenceEnd] fuel
        let value ← valueBefore false [.flowEntry, .flowSequenceEnd] fuel
        put number (.mapping .map [(name, value)])
        return number :: (← flowItems false fuel)
      else if ← accept .flowSequenceEnd then return []
      else
        let item ← node false false fuel
        return item :: (← flowItems false fuel)

def flowEntries (first : Bool) : Nat → Group (List (Nat × Nat))
  | 0 => malformed
  | fuel + 1 => do
    if ← accept .flowMappingEnd then return []
    else
      if !first then expect .flowEntry
      if ← accept .key then
        let name ← nodeBefore false false [.value, .flowEntry, .flowMappingEnd] fuel
        let value ← valueBefore false [.flowEntry, .flowMappingEnd] fuel
        return (name, value) :: (← flowEntries false fuel)
      else if ← accept .flowMappingEnd then return []
      else
        let name ← node false false fuel
        return (name, ← add .empty) :: (← flowEntries false fuel)

end

/-- Pass the directives before a document. Each handle and the version are declared at most once. -/
def directives : Nat → Bool → List String → Group Unit
  | 0, _, _ => malformed
  | fuel + 1, versioned, declared => do
    match ← peek with
    | some (.versionDirective major) =>
      advance
      if versioned || major ≠ 1 then malformed else directives fuel true declared
    | some (.tagDirective handle start) =>
      advance
      if declared.contains handle then malformed
      else
        modify fun s => { s with handles := (handle, start) :: s.handles }
        directives fuel versioned (handle :: declared)
    | some .otherDirective =>
      advance
      directives fuel versioned declared
    | _ => return

def documentEnds : Nat → Group Unit
  | 0 => return
  | fuel + 1 => do
    if ← accept .documentEnd then documentEnds fuel

/-- Whether the next token starts a document with a mark or a directive. -/
def atDocumentStart : Group Bool := do
  match ← peek with
  | some .documentStart | some .otherDirective => return true
  | some (.versionDirective _) | some (.tagDirective _ _) => return true
  | _ => return false

/-- Read a text of at most one document and give the number of its node. -/
def document (fuel : Nat) : Group (Option Nat) := do
  if ← atEnd then return none
  let root ←
    if ← atDocumentStart then do
      directives fuel false []
      expect .documentStart
      if (← atEnd) || (← atOneOf [.documentEnd]) || (← atDocumentStart) then add .empty
      else node true false fuel
    else node true false fuel
  documentEnds fuel
  if ← atEnd then return some root else malformed

end Group

/-- The nodes of a document and the number of its root. -/
structure Graph where
  nodes : Array Node
  root : Nat

/-- The nodes of a text with at most one document. -/
def Graph.ofText (text : List Char) : Except Error (Option Graph) := do
  let (root, state) ← (Group.document (16 * text.length + 64)).run { scan := Scan.start text }
  return root.map fun root => { nodes := state.nodes, root }

/-- The number of characters that are taken from a text at once. The first two portions are taken
together. -/
def portion : Nat := 4096

def beforePortion (text : List Char) (index : Nat) : List Char :=
  if index < 2 * portion then [] else text.take (index / portion * portion)

/-- The nodes of a text that may hold characters which are not allowed. These are noticed when their
portion is taken, and what is wrong before it comes first. -/
def Graph.read (text : List Char) : Except Error (Option Graph) := do
  match text.findIdx? fun c => !isAllowed c with
  | none => Graph.ofText text
  | some index =>
    discard (Graph.ofText (beforePortion text index))
    throw .malformed

end SymbolReference.Yaml

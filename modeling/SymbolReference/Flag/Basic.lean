import SymbolReference.Text.Words

namespace SymbolReference

/-- What a flag does for its target: `store` takes a value, for which a placeholder stands in the
help, `dual` sets the truth value that its spelling says, `set` always sets the same one. -/
inductive FlagAction (α : Type) where
  | help
  | store (target : α) (placeholder : String)
  | dual (target : α)
  | set (target : α) (value : Bool)
deriving Repr, DecidableEq

/-- A flag: its spellings, what it does, and what the help says about it. -/
structure Flag (α : Type) where
  spellings : List String
  action : FlagAction α
  help : String
deriving Repr, DecidableEq

namespace Flag

variable {α : Type}

def takesValue (f : Flag α) : Bool :=
  match f.action with
  | .store _ _ => true
  | .help | .dual _ | .set _ _ => false

/-- A flag as it is named in messages. -/
def name (f : Flag α) : String :=
  String.intercalate "/" f.spellings

/-- How a spelling starts that denies. -/
def denial : String := "--no-"

/-- The spellings of a flag that can also be denied. Only those after two hyphens have a denial. -/
def dualSpellings (spellings : List String) : List String :=
  spellings.flatMap fun s =>
    if s.startsWith "--" then [s, denial ++ String.ofList (s.toList.drop 2)] else [s]

end Flag

/-- Flags that are known together. `signs` are the characters that flags start with. -/
structure FlagTable (α : Type) where
  signs : List Char
  flags : List (Flag α) := []

/-- Spellings that a flag shares with others. -/
structure FlagConflict where
  flag : String
  spellings : List String
deriving Repr, DecidableEq

/-- The message about shared spellings. -/
def FlagConflict.message (e : FlagConflict) : String :=
  "argument " ++ e.flag ++ ": conflicting option string" ++
    (if e.spellings.length = 1 then "" else "s") ++ ": " ++ String.intercalate ", " e.spellings

namespace FlagTable

variable {α : Type}

def spellings (t : FlagTable α) : List String :=
  t.flags.flatMap Flag.spellings

def find? (t : FlagTable α) (spelling : String) : Option (Flag α) :=
  t.flags.find? fun f => f.spellings.contains spelling

def add (t : FlagTable α) (f : Flag α) : Except FlagConflict (FlagTable α) :=
  match f.spellings.filter fun s => t.spellings.contains s with
  | [] => .ok { t with flags := t.flags ++ [f] }
  | shared => .error { flag := f.name, spellings := shared }

end FlagTable

end SymbolReference

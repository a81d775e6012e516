import SymbolReference.Json.Basic

namespace SymbolReference

def unitEscape (unit : Nat) : List Char :=
  '\\' :: 'u' :: Text.hexDigits 4 unit

/-- One character inside a JSON text. Characters beyond sixteen bits are written as two units. -/
def jsonChar (c : Char) : List Char :=
  let n := c.toNat
  if c = '"' || c = '\\' then ['\\', c]
  else if c = '\n' then ['\\', 'n']
  else if c = '\r' then ['\\', 'r']
  else if c = '\t' then ['\\', 't']
  else if n = 12 then ['\\', 'f']
  else if n = 8 then ['\\', 'b']
  else if 32 ≤ n && n < 127 then [c]
  else if n < 0x10000 then unitEscape n
  else unitEscape (0xD800 + (n - 0x10000) / 0x400) ++ unitEscape (0xDC00 + (n - 0x10000) % 0x400)

/-- A text in double quotes. -/
def jsonText (s : String) : List Char :=
  '"' :: s.toList.flatMap jsonChar ++ ['"']

namespace JsonValue

mutual

/-- The text of a value on one line. -/
def write : JsonValue → List Char
  | null => "null".toList
  | bool b => (if b then "true" else "false").toList
  | int n => Decimal.intDigits n
  | float x => jsonFloat x
  | text s => jsonText s
  | array items => '[' :: writeItems items ++ [']']
  | object members => '\x7b' :: writeMembers members ++ ['\x7d']

/-- The texts of items with commas between them. -/
def writeItems : List JsonValue → List Char
  | [] => []
  | [item] => write item
  | item :: next :: others => write item ++ ", ".toList ++ writeItems (next :: others)

/-- The texts of members with commas between them. -/
def writeMembers : List (String × JsonValue) → List Char
  | [] => []
  | [(name, value)] => jsonText name ++ ": ".toList ++ write value
  | (name, value) :: next :: others =>
    jsonText name ++ ": ".toList ++ write value ++ ", ".toList ++ writeMembers (next :: others)

end

/-- A new line at the given depth; every level indents by two spaces. -/
def newLine (depth : Nat) : List Char :=
  '\n' :: List.replicate (2 * depth) ' '

mutual

/-- The text of a value with its parts on lines of their own. -/
def writeIndented (depth : Nat) : JsonValue → List Char
  | array [] => "[]".toList
  | array (item :: others) =>
    '[' :: newLine (depth + 1) ++ writeIndented (depth + 1) item ++
      indentedItems (depth + 1) others ++ newLine depth ++ [']']
  | object [] => "\x7b\x7d".toList
  | object ((name, value) :: others) =>
    '\x7b' :: newLine (depth + 1) ++ jsonText name ++ ": ".toList ++
      writeIndented (depth + 1) value ++ indentedMembers (depth + 1) others ++ newLine depth ++
      ['\x7d']
  | null => write null
  | bool b => write (bool b)
  | int n => write (int n)
  | float x => write (float x)
  | text s => write (text s)

/-- The texts of items, each after a comma on a line of its own. -/
def indentedItems (depth : Nat) : List JsonValue → List Char
  | [] => []
  | item :: others =>
    ',' :: newLine depth ++ writeIndented depth item ++ indentedItems depth others

/-- The texts of members, each after a comma on a line of its own. -/
def indentedMembers (depth : Nat) : List (String × JsonValue) → List Char
  | [] => []
  | (name, value) :: others =>
    ',' :: newLine depth ++ jsonText name ++ ": ".toList ++ writeIndented depth value ++
      indentedMembers depth others

end

end JsonValue

end SymbolReference

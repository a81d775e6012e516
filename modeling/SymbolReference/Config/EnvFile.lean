import SymbolReference.Mapping
import SymbolReference.Text.Words

/-!
Files of variable assignments.

A line assigns a value to a name, optionally after the word `export`. A value may stand in single
quotes, in double quotes with escapes, or bare up to the end of the line or to a comment. A name
without an equals sign is declared without a value. A statement that fits no rule is skipped, and
the line before which it starts is reported. References of the form `${NAME}` and
`${NAME:-default}` are replaced in every value.
-/

namespace SymbolReference.EnvFile

open Text

/-- White space inside a line. -/
def isInlineBlank (c : Char) : Bool :=
  isBlank c && c ≠ '\r' && c ≠ '\n'

def isLineEnd (c : Char) : Bool :=
  c = '\r' || c = '\n'

/-- Pass the white space inside a line. -/
def skipInline (s : List Char) : List Char :=
  s.dropWhile isInlineBlank

/-- Pass the word `export` before a name. -/
def skipExport (s : List Char) : List Char :=
  if startsWith s "export".toList && (s.drop 6).head?.any isInlineBlank then
    skipInline (s.drop 6)
  else s

/-- Read the text up to a closing quote. A backslash guards the character after it. -/
def untilQuote (quote : Char) : List Char → Option (List Char × List Char)
  | [] => none
  | ['\\'] => none
  | '\\' :: c :: rest =>
    (untilQuote quote rest).map fun found => ('\\' :: c :: found.1, found.2)
  | c :: rest =>
    if c = quote then some ([], rest)
    else (untilQuote quote rest).map fun found => (c :: found.1, found.2)

def doubleEscapes : List (Char × Char) :=
  [('\\', '\\'), ('\'', '\''), ('"', '"'), ('a', '\x07'), ('b', '\x08'), ('f', '\x0c'),
    ('n', '\n'), ('r', '\r'), ('t', '\t'), ('v', '\x0b')]

def singleEscapes : List (Char × Char) :=
  [('\\', '\\'), ('\'', '\'')]

/-- Replace escapes. A backslash before any other character stands for itself. -/
def unescape (escapes : List (Char × Char)) : List Char → List Char
  | [] => []
  | '\\' :: c :: rest =>
    match escapes.lookup c with
    | some d => d :: unescape escapes rest
    | none => '\\' :: unescape escapes (c :: rest)
  | c :: rest => c :: unescape escapes rest

/-- A bare value up to a comment, which needs white space before it. -/
def uncommented : List Char → List Char
  | [] => []
  | c :: rest =>
    if isBlank c && (trimLeft rest).head? = some '#' then [] else c :: uncommented rest

/-- Read a value. The rest of the text is returned with it. -/
def readValue (s : List Char) : Option (List Char × List Char) :=
  match s with
  | '\'' :: rest => (untilQuote '\'' rest).map fun found => (unescape singleEscapes found.1, found.2)
  | '"' :: rest => (untilQuote '"' rest).map fun found => (unescape doubleEscapes found.1, found.2)
  | _ =>
    let line := s.takeWhile fun c => !isLineEnd c
    some (trimRight (uncommented line), s.dropWhile fun c => !isLineEnd c)

/-- Read a name. A comment in its place has none. -/
def readName (s : List Char) : Option (Option (List Char) × List Char) :=
  match s with
  | '#' :: _ => some (none, s)
  | '\'' :: rest =>
    let name := rest.takeWhile fun c => c ≠ '\''
    match rest.dropWhile fun c => c ≠ '\'' with
    | '\'' :: after => if name.isEmpty then none else some (some name, after)
    | _ => none
  | _ =>
    let inName := fun c => c ≠ '=' && c ≠ '#' && !isBlank c
    let name := s.takeWhile inName
    if name.isEmpty then none else some (some name, s.dropWhile inName)

/-- Pass the end of a line, which may hold a comment. -/
def readLineEnd (s : List Char) : Option (List Char) :=
  let commentless :=
    match skipInline s with
    | '#' :: rest => rest.dropWhile fun c => !isLineEnd c
    | _ => s
  match skipInline commentless with
  | [] => some []
  | '\r' :: '\n' :: rest => some rest
  | '\n' :: rest => some rest
  | '\r' :: rest => some rest
  | _ => none

/-- Pass the rest of a line. -/
def skipLine (s : List Char) : List Char :=
  (s.dropWhile fun c => !isLineEnd c).drop 1

/-- A statement of a file: a name with its value, if one is assigned, or a fault with the line
that was reached before it. A comment has no name. -/
inductive Statement where
  | binding (name value : Option (List Char))
  | fault (line : Nat)

/-- Read the part of a binding after its name. On failure the place reached is returned. A comment
that follows the equals sign after white space leaves an empty value. -/
def readAfterName (name : Option (List Char)) (s : List Char) :
    Except (List Char) (Statement × List Char) :=
  let finish := fun (value : Option (List Char)) (s : List Char) =>
    match readLineEnd s with
    | some rest => .ok (.binding name value, rest)
    | none =>
      .error (match skipInline s with
        | '#' :: rest => rest.dropWhile fun c => !isLineEnd c
        | _ => s)
  match skipInline s with
  | '=' :: rest =>
    let start := skipInline rest
    if start.head? = some '#' && start.length < rest.length then finish (some []) start
    else
      match readValue start with
      | some (value, rest) => finish (some value) rest
      | none => .error start
  | rest => finish none rest

/-- Read one statement. White space at the end of the text is none. -/
def statement? (line : Nat) (s : List Char) : Option (Statement × List Char) :=
  match trimLeft s with
  | [] => none
  | start =>
    let s := skipExport start
    match readName s with
    | none => some (.fault line, skipLine s)
    | some (name, rest) =>
      match readAfterName name rest with
      | .ok found => some found
      | .error rest => some (.fault line, skipLine rest)

def lineEnds (s : List Char) : Nat :=
  (s.filter isLineEnd).length

/-- Read all statements of a text that starts at a line, by at most `fuel` statements. -/
def statementsFrom : Nat → Nat → List Char → List Statement
  | 0, _, _ => []
  | fuel + 1, line, s =>
    match statement? line s with
    | none => []
    | some (found, rest) =>
      found :: statementsFrom fuel (line + (lineEnds s - lineEnds rest)) rest

/-- The statements of a file. A byte order mark at its start is passed over. -/
def statements (text : String) : List Statement :=
  let s := unixNewlines text.toList
  let s := if s.head? = some '\uFEFF' then s.tail else s
  statementsFrom (s.length + 1) 1 s

/-- The lines at which the statements of a file start that fit no rule. -/
def faultLines (text : String) : List Nat :=
  (statements text).filterMap fun found =>
    match found with
    | .fault line => some line
    | .binding _ _ => none

/-- A piece of a value: text, or a reference to a variable with the text in its place. -/
inductive Piece where
  | text (c : Char)
  | reference (name fallback : String)

/-- Read a reference after its opening mark. -/
def reference? (s : List Char) : Option (Piece × List Char) :=
  let inName := fun c => c ≠ '\x7d' && c ≠ ':'
  let name := String.ofList (s.takeWhile inName)
  match s.dropWhile inName with
  | '\x7d' :: rest => some (.reference name "", rest)
  | ':' :: '-' :: rest =>
    match rest.dropWhile fun c => c ≠ '\x7d' with
    | '\x7d' :: after =>
      some (.reference name (String.ofList (rest.takeWhile fun c => c ≠ '\x7d')), after)
    | _ => none
  | _ => none

/-- The pieces of a value, by at most `fuel` characters. -/
def pieces : Nat → List Char → List Piece
  | 0, _ => []
  | _ + 1, [] => []
  | fuel + 1, '$' :: '\x7b' :: rest =>
    match reference? rest with
    | some (piece, after) => piece :: pieces fuel after
    | none => .text '$' :: pieces fuel ('\x7b' :: rest)
  | fuel + 1, c :: rest => .text c :: pieces fuel rest

/-- A value with its references replaced. Variables assigned before win over the environment. -/
def expand (environment : Mapping String) (assigned : Mapping (Option String))
    (value : List Char) : String :=
  String.join ((pieces (value.length + 1) value).map fun piece =>
    match piece with
    | .text c => String.singleton c
    | .reference name fallback =>
      match assigned.get? name with
      | some found => found.getD ""
      | none => (environment.get? name).getD fallback)

/-- The variables that a text assigns. The last assignment of a name wins; a name without a value
is present with none. -/
def read (environment : Mapping String) (text : String) : Mapping (Option String) :=
  (statements text).foldl
    (fun assigned found =>
      match found with
      | .fault _ | .binding none _ => assigned
      | .binding (some name) none => assigned.insert (String.ofList name) none
      | .binding (some name) (some value) =>
        assigned.insert (String.ofList name) (some (expand environment assigned value)))
    Mapping.empty

end SymbolReference.EnvFile

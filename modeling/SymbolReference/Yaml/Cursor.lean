namespace SymbolReference.Yaml

/-- The characters that are left of a text, with the place they start at. The end of the text reads
as the null character, which no accepted text holds. -/
structure Cursor where
  rest : List Char
  index : Nat := 0
  line : Nat := 0
  column : Nat := 0

/-- The characters that end a line. -/
def isBreak (c : Char) : Bool :=
  c = '\n' || c = '\r' || c = '\x85' || c = '\u2028' || c = '\u2029'

/-- The end of the text or of a line. -/
def isBreakOrEnd (c : Char) : Bool :=
  c = '\x00' || isBreak c

def isSpaceOrEnd (c : Char) : Bool :=
  c = ' ' || isBreakOrEnd c

/-- The end of the text, of a line, a space or a tab. -/
def isGap (c : Char) : Bool :=
  c = '\t' || isSpaceOrEnd c

/-- A letter, a digit, a hyphen or an underscore. -/
def isWordChar (c : Char) : Bool :=
  c.isAlphanum || c = '-' || c = '_'

/-- The characters that a YAML text may hold. -/
def isAllowed (c : Char) : Bool :=
  let n := c.toNat
  n == 9 || n == 10 || n == 13 || (0x20 ≤ n && n ≤ 0x7E) || n == 0x85 ||
    (0xA0 ≤ n && n ≤ 0xFFFD) || 0x10000 ≤ n

namespace Cursor

/-- The character a number of places ahead. -/
def ahead (c : Cursor) (n : Nat) : Char :=
  (c.rest.drop n).headD '\x00'

/-- The next character. -/
def peek (c : Cursor) : Char :=
  c.rest.headD '\x00'

/-- Whether the text goes on with the given characters. -/
def startsWith (c : Cursor) (start : List Char) : Bool :=
  start.isPrefixOf c.rest

/-- Pass one character. A carriage return before a line feed ends no line of its own, and a byte
order mark takes no column. -/
def step (c : Cursor) : Cursor :=
  match c.rest with
  | [] => c
  | x :: rest =>
    if (isBreak x && x ≠ '\r') || (x = '\r' && rest.head? ≠ some '\n') then
      { rest, index := c.index + 1, line := c.line + 1, column := 0 }
    else if x = '\uFEFF' then { c with rest, index := c.index + 1 }
    else { c with rest, index := c.index + 1, column := c.column + 1 }

/-- Pass a number of characters. -/
def skip : Nat → Cursor → Cursor
  | 0, c => c
  | n + 1, c => skip n c.step

/-- The longest stretch of characters that satisfy a test, and the place after it. -/
def span (p : Char → Bool) (c : Cursor) : List Char × Cursor :=
  let taken := c.rest.takeWhile p
  (taken, skip taken.length c)

/-- Pass the spaces at this place. -/
def skipSpaces (c : Cursor) : Cursor :=
  (c.span (· = ' ')).2

/-- Pass the comment at this place, if there is one. -/
def skipComment (c : Cursor) : Cursor :=
  if c.peek = '#' then (c.span fun x => !isBreakOrEnd x).2 else c

/-- Pass a line break. Carriage returns, line feeds and next-line controls count as line feeds; the
two separators stand for themselves. -/
def lineBreak (c : Cursor) : List Char × Cursor :=
  let x := c.peek
  if x = '\r' && c.ahead 1 = '\n' then (['\n'], skip 2 c)
  else if x = '\r' || x = '\n' || x = '\x85' then (['\n'], c.step)
  else if x = '\u2028' || x = '\u2029' then ([x], c.step)
  else ([], c)

/-- Whether a mark of three equal characters stands alone at this place. -/
def hasMarker (c : Cursor) (x : Char) : Bool :=
  c.startsWith [x, x, x] && isGap (c.ahead 3)

/-- Whether a document starts or ends at this place. -/
def atDocumentMarker (c : Cursor) : Bool :=
  c.hasMarker '-' || c.hasMarker '.'

end Cursor

end SymbolReference.Yaml

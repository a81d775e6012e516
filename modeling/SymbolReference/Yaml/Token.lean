import SymbolReference.Yaml.Cursor
import SymbolReference.Yaml.Error

/-!
The tokens of a YAML text.

Indentation is turned into tokens that start and end block collections. A key without a question
mark is recognised when its colon is reached, and its tokens are then put before those of the key;
such a key stays on one line and within 1024 characters. The text is read only as far as the next
token needs it, so what stands behind a faulty place is never looked at.
-/

namespace SymbolReference.Yaml

/-- A tag as written: a handle, if any, and the text after it. -/
structure TagText where
  handle : Option String
  suffix : String
deriving Repr, DecidableEq

/-- A token of a YAML text. -/
inductive Token where
  | versionDirective (major : Nat)
  | tagDirective (handle start : String)
  | otherDirective
  | documentStart
  | documentEnd
  | blockSequenceStart
  | blockMappingStart
  | blockEnd
  | flowSequenceStart
  | flowSequenceEnd
  | flowMappingStart
  | flowMappingEnd
  | flowEntry
  | blockEntry
  | key
  | value
  | alias (name : String)
  | anchor (name : String)
  | tag (text : TagText)
  | scalar (content : String) (plain : Bool)
deriving Repr, DecidableEq

/-- A place where a key without a question mark may have started. -/
structure KeyCandidate where
  position : Nat
  required : Bool
  index : Nat
  line : Nat
  column : Nat

/-- The state of the scan: the place reached, the tokens found and how many of them were taken,
whether the end was reached, the current indentation and the enclosing ones, the nesting of flow
collections, whether a key may start here, and the candidates by nesting level. -/
structure Scan where
  cursor : Cursor
  tokens : Array Token := #[]
  taken : Nat := 0
  finished : Bool := false
  indent : Int := -1
  indents : List Int := []
  flowLevel : Nat := 0
  keyAllowed : Bool := true
  candidates : List (Nat × KeyCandidate) := []

/-- The result of a step that may find the text malformed. -/
abbrev Step (α : Type) := Except Error α

/-- Fail unless a condition holds. -/
def require (condition : Bool) : Step Unit :=
  if condition then .ok () else .error .malformed

namespace Scan

def push (s : Scan) (t : Token) : Scan :=
  { s with tokens := s.tokens.push t }

/-- Move to another place. -/
def at' (s : Scan) (c : Cursor) : Scan :=
  { s with cursor := c }

/-- Close the block collections that are indented deeper than a column. -/
def unwindTo (column : Int) : List Int → Scan → Scan
  | [], s => s
  | outer :: others, s =>
    if s.indent > column then
      unwindTo column others { s with indent := outer, indents := others, tokens := s.tokens.push .blockEnd }
    else s

/-- Close the block collections that end before a column, outside flow collections. -/
def unwind (s : Scan) (column : Int) : Scan :=
  if s.flowLevel = 0 then unwindTo column s.indents s else s

/-- Open a block collection at a column, unless one is open there. -/
def indentTo (s : Scan) (column : Nat) : Bool × Scan :=
  if s.indent < Int.ofNat column then
    (true, { s with indents := s.indent :: s.indents, indent := column })
  else (false, s)

/-- Drop the candidates for a key that lie too far back. -/
def dropStale (s : Scan) : Step Scan :=
  let stale := fun (k : KeyCandidate) =>
    k.line ≠ s.cursor.line || s.cursor.index - k.index > 1024
  if s.candidates.any fun entry => stale entry.2 && entry.2.required then .error .malformed
  else .ok { s with candidates := s.candidates.filter fun entry => !stale entry.2 }

def candidate? (s : Scan) : Option KeyCandidate :=
  s.candidates.lookup s.flowLevel

/-- Forget the candidate at the current nesting level. -/
def forget (s : Scan) : Scan :=
  { s with candidates := s.candidates.filter fun entry => entry.1 ≠ s.flowLevel }

/-- Give up the candidate at the current nesting level. -/
def dropCandidate (s : Scan) : Step Scan :=
  match s.candidate? with
  | none => .ok s
  | some k => if k.required then .error .malformed else .ok s.forget

/-- Note that a key may start here. -/
def noteCandidate (s : Scan) : Step Scan :=
  if s.keyAllowed then do
    let required := s.flowLevel = 0 && s.indent = Int.ofNat s.cursor.column
    let t ← s.dropCandidate
    let k : KeyCandidate :=
      { position := s.tokens.size, required, index := s.cursor.index, line := s.cursor.line,
        column := s.cursor.column }
    return { t with candidates := (s.flowLevel, k) :: t.candidates }
  else .ok s

def insertAt (s : Scan) (position : Nat) (t : Token) : Scan :=
  { s with tokens := s.tokens.insertIdxIfInBounds position t }

/-- Pass spaces, comments and line breaks up to the next token. Outside flow collections a key may
start on a new line. -/
def toNextToken : Nat → Scan → Scan
  | 0, s => s
  | fuel + 1, s =>
    let c := s.cursor.skipSpaces.skipComment
    let (taken, after) := c.lineBreak
    if taken.isEmpty then s.at' c
    else
      toNextToken fuel
        { s with cursor := after, keyAllowed := s.keyAllowed || s.flowLevel = 0 }

end Scan

/-- Read a decimal number. -/
def scanNumber (c : Cursor) : Step (Nat × Cursor) := do
  let (digits, after) := c.span Char.isDigit
  require (!digits.isEmpty)
  match Decimal.readWhole 10 digits with
  | .ok n => return (n.toNat, after)
  | .error e => .error (.number e)

/-- Pass the rest of a line that may hold nothing but a comment. -/
def scanIgnoredLine (c : Cursor) : Step Cursor := do
  let c := c.skipSpaces.skipComment
  require (isBreakOrEnd c.peek)
  return c.lineBreak.2

/-- Read one byte written as a percent sign and two hexadecimal digits. -/
def hexValue? (c : Char) : Option Nat :=
  if c.isDigit then some (c.toNat - 48)
  else if 'a' ≤ c && c ≤ 'f' then some (c.toNat - 87)
  else if 'A' ≤ c && c ≤ 'F' then some (c.toNat - 55)
  else none

def hexNumber? (digits : List Char) : Option Nat :=
  digits.foldlM (fun n c => (hexValue? c).map fun d => 16 * n + d) 0

/-- Read bytes that are each written as a percent sign and two hexadecimal digits. -/
def scanEscapedBytes : Nat → Cursor → Step (List UInt8 × Cursor)
  | 0, c => .ok ([], c)
  | fuel + 1, c =>
    if c.peek = '%' then
      match hexNumber? [c.ahead 1, c.ahead 2] with
      | none => .error .malformed
      | some n => do
        let (bytes, after) ← scanEscapedBytes fuel (c.skip 3)
        return (UInt8.ofNat n :: bytes, after)
    else .ok ([], c)

/-- The characters of a tag that stand for themselves. -/
def isUriChar (c : Char) : Bool :=
  c.isAlphanum || "-;/?:@&=+$,_.!~*\x27()[]".toList.contains c

/-- Read the text of a tag, which may be empty. -/
def scanUriParts : Nat → Cursor → Step (List Char × Cursor)
  | 0, c => .ok ([], c)
  | fuel + 1, c =>
    let (taken, after) := c.span isUriChar
    if after.peek = '%' then do
      let (bytes, after) ← scanEscapedBytes after.rest.length after
      match String.fromUTF8? ⟨bytes.toArray⟩ with
      | none => .error .malformed
      | some decoded =>
        let (more, after) ← scanUriParts fuel after
        return (taken ++ decoded.toList ++ more, after)
    else .ok (taken, after)

/-- Read the text of a tag. -/
def scanUri (c : Cursor) : Step (String × Cursor) := do
  let (taken, after) ← scanUriParts (c.rest.length + 1) c
  require (!taken.isEmpty)
  return (String.ofList taken, after)

/-- Read the handle of a tag: one exclamation mark, or two with a word between them. -/
def scanHandle (c : Cursor) : Step (String × Cursor) := do
  require (c.peek = '!')
  if c.ahead 1 = ' ' then return ("!", c.step)
  let (word, after) := c.step.span isWordChar
  require (after.peek = '!')
  return ("!" ++ String.ofList word ++ "!", after.step)

def scanDirective (c : Cursor) : Step (Token × Cursor) := do
  let (name, after) := c.step.span isWordChar
  require (!name.isEmpty && isSpaceOrEnd after.peek)
  match String.ofList name with
  | "YAML" =>
    let (major, after) ← scanNumber after.skipSpaces
    require (after.peek = '.')
    let (_, after) ← scanNumber after.step
    require (isSpaceOrEnd after.peek)
    let after ← scanIgnoredLine after
    return (.versionDirective major, after)
  | "TAG" =>
    let (handle, after) ← scanHandle after.skipSpaces
    require (after.peek = ' ')
    let (start, after) ← scanUri after.skipSpaces
    require (isSpaceOrEnd after.peek)
    let after ← scanIgnoredLine after
    return (.tagDirective handle start, after)
  | _ =>
    let (_, after) := after.span fun x => !isBreakOrEnd x
    let after ← scanIgnoredLine after
    return (.otherDirective, after)

/-- Read the name of an anchor or alias. -/
def scanName (c : Cursor) : Step (String × Cursor) := do
  let (name, after) := c.step.span isWordChar
  require (!name.isEmpty &&
    (isGap after.peek || "?:,]\x7d%@\x60".toList.contains after.peek))
  return (String.ofList name, after)

def scanTag (c : Cursor) : Step (TagText × Cursor) := do
  let (text, after) ←
    if c.ahead 1 = '<' then do
      let (suffix, after) ← scanUri (c.skip 2)
      require (after.peek = '>')
      pure ({ handle := none, suffix : TagText }, after.step)
    else if isGap (c.ahead 1) then pure ({ handle := none, suffix := "!" }, c.step)
    else
      let word := c.step.rest.takeWhile fun x => !isSpaceOrEnd x
      if word.contains '!' then do
        let (handle, after) ← scanHandle c
        let (suffix, after) ← scanUri after
        pure ({ handle := some handle, suffix }, after)
      else do
        let (suffix, after) ← scanUri c.step
        pure ({ handle := some "!", suffix }, after)
  require (isSpaceOrEnd after.peek)
  return (text, after)

/-- What happens to the line breaks at the end of a block scalar. -/
inductive Chomping where
  | strip
  | clip
  | keep
deriving Repr, DecidableEq

/-- Read a mark that says what happens to the last line breaks. -/
def chomping? : Char → Option Chomping
  | '+' => some .keep
  | '-' => some .strip
  | _ => none

/-- Read the digit that gives the indentation of a block scalar. -/
def scanIncrement (c : Cursor) : Step (Option Nat × Cursor) :=
  if c.peek.isDigit then
    if c.peek = '0' then .error .malformed else .ok (some (c.peek.toNat - 48), c.step)
  else .ok (none, c)

/-- Read the marks after the sign of a block scalar, in either order. -/
def scanIndicators (c : Cursor) : Step (Chomping × Option Nat × Cursor) := do
  let (mode, increment, c) ←
    match chomping? c.peek with
    | some mode => do
      let (increment, after) ← scanIncrement c.step
      pure (mode, increment, after)
    | none => do
      let (increment, after) ← scanIncrement c
      if increment.isSome then
        match chomping? after.peek with
        | some mode => pure (mode, increment, after.step)
        | none => pure (.clip, increment, after)
      else pure (.clip, increment, after)
  require (isSpaceOrEnd c.peek)
  return (mode, increment, c)

def spacesTo (column : Nat) : Nat → Cursor → Cursor
  | 0, c => c
  | fuel + 1, c => if c.column < column && c.peek = ' ' then spacesTo column fuel c.step else c

/-- Pass empty lines at the front of a block scalar. Their breaks and the deepest column reached are
returned. -/
def leadingBreaks : Nat → Nat → Cursor → List Char × Nat × Cursor
  | 0, deepest, c => ([], deepest, c)
  | fuel + 1, deepest, c =>
    if c.peek = ' ' then
      let after := c.step
      leadingBreaks fuel (max deepest after.column) after
    else if isBreak c.peek then
      let (taken, after) := c.lineBreak
      let (more, deepest, after) := leadingBreaks fuel deepest after
      (taken ++ more, deepest, after)
    else ([], deepest, c)

/-- Pass empty lines between the lines of a block scalar, and the indentation after them. -/
def innerBreaks (indent : Nat) : Nat → Cursor → List Char × Cursor
  | 0, c => ([], c)
  | fuel + 1, c =>
    let c := spacesTo indent c.rest.length c
    if isBreak c.peek then
      let (taken, after) := c.lineBreak
      let (more, after) := innerBreaks indent fuel after
      (taken ++ more, after)
    else ([], c)

/-- Whether another line of a block scalar starts here. -/
def onBlockLine (indent : Nat) (c : Cursor) : Bool :=
  c.column = indent && c.peek ≠ '\x00'

/-- The lines of a block scalar from the given place, with the breaks before them. -/
def blockLines (folded : Bool) (mode : Chomping) (indent : Nat) :
    Nat → List Char → Cursor → List Char × Cursor
  | 0, _, c => ([], c)
  | fuel + 1, breaks, c =>
    let first := c.peek
    let (text, after) := c.span fun x => !isBreakOrEnd x
    let (ending, after) := after.lineBreak
    let (nextBreaks, after) := innerBreaks indent after.rest.length after
    let next := after.peek
    if onBlockLine indent after then
      -- The break next to a line that begins with white space is kept.
      let glue :=
        if folded && ending = ['\n'] && first ≠ ' ' && first ≠ '\t' && next ≠ ' ' && next ≠ '\t' then
          if nextBreaks.isEmpty then [' '] else []
        else ending
      let (more, after) := blockLines folded mode indent fuel nextBreaks after
      (breaks ++ text ++ glue ++ more, after)
    else
      let tail :=
        match mode with
        | .strip => []
        | .clip => ending
        | .keep => ending ++ nextBreaks
      (breaks ++ text ++ tail, after)

/-- Read a block scalar inside a collection of the given indentation. -/
def scanBlockScalar (folded : Bool) (indent : Int) (c : Cursor) : Step (String × Cursor) := do
  let (mode, increment, c) ← scanIndicators c.step
  let c ← scanIgnoredLine c
  let least := (max (indent + 1) 1).toNat
  let (breaks, own, c) :=
    match increment with
    | none =>
      let (breaks, deepest, after) := leadingBreaks c.rest.length 0 c
      (breaks, max least deepest, after)
    | some n =>
      let own := least + n - 1
      let (breaks, after) := innerBreaks own (c.rest.length + 1) c
      (breaks, own, after)
  if onBlockLine own c then
    let (text, after) := blockLines folded mode own (c.rest.length + 1) breaks c
    return (String.ofList text, after)
  else
    return (String.ofList (if mode = .keep then breaks else []), c)

/-- The character that a letter after a backslash stands for. -/
def escapeValue? : Char → Option Char
  | '0' => some '\x00'
  | 'a' => some '\x07'
  | 'b' => some '\x08'
  | 't' | '\t' => some '\t'
  | 'n' => some '\n'
  | 'v' => some '\x0b'
  | 'f' => some '\x0c'
  | 'r' => some '\r'
  | 'e' => some '\x1b'
  | ' ' => some ' '
  | '"' => some '"'
  | '\\' => some '\\'
  | '/' => some '/'
  | 'N' => some '\x85'
  | '_' => some '\xa0'
  | 'L' => some '\u2028'
  | 'P' => some '\u2029'
  | _ => none

/-- The count of hexadecimal digits after a letter that follows a backslash. -/
def escapeWidth? : Char → Option Nat
  | 'x' => some 2
  | 'u' => some 4
  | 'U' => some 8
  | _ => none

/-- Pass the empty lines inside a quoted scalar. -/
def quotedBreaks : Nat → Cursor → Step (List Char × Cursor)
  | 0, c => .ok ([], c)
  | fuel + 1, c => do
    require (!c.atDocumentMarker)
    let c := (c.span fun x => x = ' ' || x = '\t').2
    if isBreak c.peek then
      let (taken, after) := c.lineBreak
      let (more, after) ← quotedBreaks fuel after
      return (taken ++ more, after)
    else return ([], c)

/-- Read one piece of a quoted scalar: an ordinary stretch, an escape, a doubled quote, or white
space with line breaks folded. -/
def quotedPiece (double : Bool) (c : Cursor) : Step (List Char × Cursor) := do
  let x := c.peek
  if x = ' ' || x = '\t' || isBreakOrEnd x then
    let (blanks, after) := c.span fun x => x = ' ' || x = '\t'
    require (after.peek ≠ '\x00')
    if isBreak after.peek then
      let (ending, after) := after.lineBreak
      let (breaks, after) ← quotedBreaks after.rest.length after
      let glue := if ending ≠ ['\n'] then ending else if breaks.isEmpty then [' '] else []
      return (glue ++ breaks, after)
    else return (blanks, after)
  else if !double && x = '\'' then return (['\''], c.skip 2)
  else if double && x = '\\' then
    let letter := c.ahead 1
    match escapeValue? letter, escapeWidth? letter with
    | some value, _ => return ([value], c.skip 2)
    | none, some width =>
      let digits := (c.rest.drop 2).take width
      match hexNumber? digits with
      | none => .error .malformed
      | some n =>
        require (digits.length = width)
        if n < 0x110000 then return ([Text.charOfCode n], c.skip (2 + width))
        else .error (if n < 0x80000000 then .codePoint else .hugeCodePoint)
    | none, none =>
      -- A backslash at the end of a line joins it to the next one.
      require (isBreak letter)
      let after := c.step.lineBreak.2
      quotedBreaks after.rest.length after
  else return ([x], c.step)

/-- Whether a quoted scalar ends here. -/
def atClosingQuote (double : Bool) (c : Cursor) : Bool :=
  if double then c.peek = '"' else c.peek = '\'' && c.ahead 1 ≠ '\''

/-- Read a quoted scalar after its opening quote. -/
def quotedPieces (double : Bool) : Nat → Cursor → Step (List Char × Cursor)
  | 0, _ => .error .malformed
  | fuel + 1, c =>
    if atClosingQuote double c then .ok ([], c.step)
    else do
      let (piece, after) ← quotedPiece double c
      let (more, after) ← quotedPieces double fuel after
      return (piece ++ more, after)

/-- Read a quoted scalar. -/
def scanQuoted (double : Bool) (c : Cursor) : Step (String × Cursor) := do
  let (text, after) ← quotedPieces double (c.rest.length + 1) c.step
  return (String.ofList text, after)

/-- Whether a plain scalar stops before the first of the given characters. -/
def plainStops (inFlow : Bool) (x next : Char) : Bool :=
  isGap x || (x = ':' && (isGap next || (inFlow && ",[]\x7b\x7d".toList.contains next))) ||
    (inFlow && ",?[]\x7b\x7d".toList.contains x)

/-- The stretch of a plain scalar up to white space or an indicator. -/
def plainStretch (inFlow : Bool) : List Char → List Char
  | [] => []
  | x :: rest =>
    if plainStops inFlow x (rest.headD '\x00') then [] else x :: plainStretch inFlow rest

/-- Pass the empty lines inside a plain scalar. Nothing is returned when a document ends there. -/
def plainBreaks : Nat → Cursor → Option (List Char) × Cursor
  | 0, c => (some [], c)
  | fuel + 1, c =>
    if c.peek = ' ' then plainBreaks fuel c.step
    else if isBreak c.peek then
      let (taken, after) := c.lineBreak
      if after.atDocumentMarker then (none, after)
      else
        let (more, after) := plainBreaks fuel after
        (more.map (taken ++ ·), after)
    else (some [], c)

/-- Pass the white space inside a plain scalar, with line breaks folded. The flag tells whether a
line break was passed. -/
def plainSpaces (c : Cursor) : List Char × Bool × Cursor :=
  let (blanks, after) := c.span (· = ' ')
  if isBreak after.peek then
    let (ending, after) := after.lineBreak
    if after.atDocumentMarker then ([], true, after)
    else
      match plainBreaks after.rest.length after with
      | (none, after) => ([], true, after)
      | (some breaks, after) =>
        let glue := if ending ≠ ['\n'] then ending else if breaks.isEmpty then [' '] else []
        (glue ++ breaks, true, after)
  else (blanks, false, after)

/-- Read a plain scalar, white space before each stretch included. The flag tells whether the last
white space held a line break. -/
def plainParts (inFlow : Bool) (indent : Int) :
    Nat → List Char → Bool → Cursor → List Char × Bool × Cursor
  | 0, _, newline, c => ([], newline, c)
  | fuel + 1, spaces, newline, c =>
    if c.peek = '#' then ([], newline, c)
    else
      let stretch := plainStretch inFlow c.rest
      if stretch.isEmpty then ([], newline, c)
      else
        let (next, broken, after) := plainSpaces (c.skip stretch.length)
        if next.isEmpty || after.peek = '#' || (!inFlow && Int.ofNat after.column < indent) then
          (spaces ++ stretch, broken, after)
        else
          let (more, broken, after) := plainParts inFlow indent fuel next broken after
          (spaces ++ stretch ++ more, broken, after)

/-- Add a token of one character. -/
def Scan.single (s : Scan) (t : Token) : Scan :=
  (s.at' s.cursor.step).push t

/-- Add a token that was read up to a place, after which no key may start. -/
def Scan.finish (s : Scan) (t : Token) (c : Cursor) : Scan :=
  { s.push t with cursor := c, keyAllowed := false }

/-- Start or end a document, or read a directive: all block collections are closed. -/
def Scan.closeAll (s : Scan) : Step Scan := do
  let s ← (s.unwind (-1)).dropCandidate
  return { s with keyAllowed := false }

/-- Read a sign that opens a block collection unless one is open at this column. -/
def Scan.openBlock (s : Scan) (t : Token) : Step Scan :=
  if s.flowLevel = 0 then do
    require s.keyAllowed
    let (opened, s) := s.indentTo s.cursor.column
    return if opened then s.push t else s
  else .ok s

/-- Read a colon that ends a key. -/
def Scan.value (s : Scan) : Step Scan :=
  match s.candidate? with
  | some k =>
    let s := s.forget.insertAt k.position .key
    let s :=
      if s.flowLevel = 0 then
        let (opened, s) := s.indentTo k.column
        if opened then s.insertAt k.position .blockMappingStart else s
      else s
    .ok ({ s with keyAllowed := false }.single .value)
  | none => do
    let s ← s.openBlock .blockMappingStart
    let s ← { s with keyAllowed := s.flowLevel = 0 }.dropCandidate
    return s.single .value

/-- Whether a plain scalar may start here. -/
def Scan.atPlain (s : Scan) : Bool :=
  let x := s.cursor.peek
  let next := s.cursor.ahead 1
  !(isGap x || "-?:,[]\x7b\x7d#&*!|>\x27\x22%@\x60".toList.contains x) ||
    (!isGap next && (x = '-' || (s.flowLevel = 0 && (x = '?' || x = ':'))))

/-- Read one token at the place reached. -/
def Scan.token (s : Scan) : Step Scan :=
  let c := s.cursor
  let x := c.peek
  let gapNext := isGap (c.ahead 1)
  let inFlow := s.flowLevel ≠ 0
  if x = '%' && c.column = 0 then do
    let s ← s.closeAll
    let (t, after) ← scanDirective c
    return (s.push t).at' after
  else if c.column = 0 && c.hasMarker '-' then do
    let s ← s.closeAll
    return (s.push .documentStart).at' (c.skip 3)
  else if c.column = 0 && c.hasMarker '.' then do
    let s ← s.closeAll
    return (s.push .documentEnd).at' (c.skip 3)
  else if x = '[' || x = '\x7b' then do
    let s ← s.noteCandidate
    let t := if x = '[' then Token.flowSequenceStart else .flowMappingStart
    return { s with flowLevel := s.flowLevel + 1, keyAllowed := true }.single t
  else if x = ']' || x = '\x7d' then do
    require inFlow
    let s ← s.dropCandidate
    let t := if x = ']' then Token.flowSequenceEnd else .flowMappingEnd
    return { s with flowLevel := s.flowLevel - 1, keyAllowed := false }.single t
  else if x = ',' then do
    let s ← { s with keyAllowed := true }.dropCandidate
    return s.single .flowEntry
  else if x = '-' && gapNext then do
    let s ← s.openBlock .blockSequenceStart
    let s ← { s with keyAllowed := true }.dropCandidate
    return s.single .blockEntry
  else if x = '?' && (inFlow || gapNext) then do
    let s ← s.openBlock .blockMappingStart
    let s ← { s with keyAllowed := s.flowLevel = 0 }.dropCandidate
    return s.single .key
  else if x = ':' && (inFlow || gapNext) then s.value
  else if x = '*' || x = '&' then do
    let s ← s.noteCandidate
    let (name, after) ← scanName c
    return s.finish (if x = '*' then .alias name else .anchor name) after
  else if x = '!' then do
    let s ← s.noteCandidate
    let (text, after) ← scanTag c
    return s.finish (.tag text) after
  else if (x = '|' || x = '>') && !inFlow then do
    let s ← { s with keyAllowed := true }.dropCandidate
    let (text, after) ← scanBlockScalar (x = '>') s.indent c
    return (s.push (.scalar text false)).at' after
  else if x = '\'' || x = '"' then do
    let s ← s.noteCandidate
    let (text, after) ← scanQuoted (x = '"') c
    return s.finish (.scalar text false) after
  else if s.atPlain then do
    let s ← s.noteCandidate
    let (text, broken, after) :=
      plainParts inFlow (s.indent + 1) (c.rest.length + 1) [] false c
    return { s.finish (.scalar (String.ofList text) true) after with keyAllowed := broken }
  else .error .malformed

/-- Read on to the next token or the end of the text. -/
def Scan.advance (s : Scan) : Step Scan := do
  let s ← (s.toNextToken (s.cursor.rest.length + 1)).dropStale
  let s := s.unwind (Int.ofNat s.cursor.column)
  if s.cursor.rest.isEmpty then
    let s ← (s.unwind (-1)).dropCandidate
    return { s with finished := true, candidates := [] }
  else s.token

/-- Read on until the next token is certain: one is at hand and no key may still start before
it. -/
def Scan.settle : Nat → Scan → Step Scan
  | 0, _ => .error .malformed
  | fuel + 1, s =>
    if s.finished then .ok s
    else if s.tokens.size ≤ s.taken then s.advance >>= Scan.settle fuel
    else do
      let s ← s.dropStale
      if s.candidates.any fun entry => entry.2.position = s.taken then
        s.advance >>= Scan.settle fuel
      else return s

/-- The next token, if the text has one more, and the state in which it is certain. -/
def Scan.next? (s : Scan) : Step (Option Token × Scan) := do
  let s ← s.settle (s.cursor.rest.length + 2)
  return (s.tokens[s.taken]?, s)

/-- The state before the first token. A byte order mark at the start of a text is passed over. -/
def Scan.start (text : List Char) : Scan :=
  let start : Cursor := { rest := text }
  { cursor := if start.peek = '\uFEFF' then start.step else start }

end SymbolReference.Yaml

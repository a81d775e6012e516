import SymbolReference.Expression.Fault
import SymbolReference.Text.Identifier
import SymbolReference.Text.Printable
import SymbolReference.Text.Words

namespace SymbolReference.Expression

/-- What a number is: a whole number, with the count of its digits when it is written in decimal
ones, a floating-point number or an imaginary one. -/
inductive NumberForm where
  | whole (digits : Nat)
  | fraction
  | imaginary
deriving Repr, DecidableEq

/-- What a token is. A string is kept as it is written, with its quotes. -/
inductive Lexeme where
  | name (text : String)
  | keyword (text : String)
  | number (form : NumberForm)
  | string (text : List Char)
  | symbol (text : String)
  | newline
  | indent
  | finish
deriving Repr, DecidableEq

/-- A token, the number of brackets that are open after it, and its line. -/
structure Token where
  lexeme : Lexeme
  level : Nat
  line : Nat
deriving Repr, DecidableEq

/-- Where the tokens of a text end: the fault that ends them, whether a character or bracket is wrong
by itself, the brackets that are open there with their lines, and whether the end of the text was
seen when the last token was read. -/
structure Stop where
  fault : SyntaxFault
  plain : Bool := true
  openBrackets : List (Char × Nat) := []
  foreseen : Bool := false
deriving Repr, DecidableEq

/-- The tokens of a text, where they end, and the lines and kinds of numbers that touch a word after
them. -/
structure Tokens where
  tokens : List Token := []
  stop : Option Stop := none
  touching : List (Nat × String) := []
deriving Repr, DecidableEq

/-- The words that are no names. -/
def keywords : List String :=
  ["False", "None", "True", "and", "as", "assert", "async", "await", "break", "class", "continue",
    "def", "del", "elif", "else", "except", "finally", "for", "from", "global", "if", "import",
    "in", "is", "lambda", "nonlocal", "not", "or", "pass", "raise", "return", "try", "while",
    "with", "yield"]

/-- Whether a character may belong to a word. Which of them really do is checked for the whole
word. -/
def isWordPart (c : Char) : Bool :=
  c.isAlphanum || c = '_' || 127 < c.toNat

/-- A text with line feeds for all line breaks. -/
def plainBreaks : List Char → List Char
  | '\r' :: '\n' :: rest => '\n' :: plainBreaks rest
  | '\r' :: rest => '\n' :: plainBreaks rest
  | c :: rest => c :: plainBreaks rest
  | [] => []

/-- Whether a word begins at the front of a text that may follow a number without a blank. Longer
words must end there. -/
def startsWord (s : List Char) : Bool :=
  (["if", "in", "is"].any fun word => Text.startsWith s word.toList) ||
    (["and", "else", "for", "not", "or"].any fun word =>
      Text.startsWith s word.toList && !(s.drop word.length).head?.any isWordPart)

/-- A number that was read: its form, the rest of the text, and its kind if a word touches it. -/
structure NumberRead where
  form : NumberForm
  rest : List Char
  touching : Option String := none

/-- Check what follows a number: no letter, digit or underscore, unless it is a word that may
follow. -/
def endNumber (form : NumberForm) (kind : String) (rest : List Char) :
    Except SyntaxFault NumberRead :=
  if startsWord rest then
    .ok { form, rest, touching := some kind }
  else if rest.head?.any fun c => c.isAlphanum || c = '_' then .error (.badNumber kind)
  else .ok { form, rest }

/-- The digits at the front of a text, of which single underscores divide groups, and the rest, in
at most `fuel` groups. The fault is that of a character where a digit is missing. -/
def takeGroups (isDigit : Char → Bool) (fault : Option Char → SyntaxFault) :
    Nat → List Char → Except SyntaxFault (List Char × List Char)
  | 0, s => .ok ([], s)
  | fuel + 1, s =>
    let digits := s.takeWhile isDigit
    if digits.isEmpty then .error (fault s.head?)
    else
      match s.drop digits.length with
      | '_' :: rest => do
        let (others, rest) ← takeGroups isDigit fault fuel rest
        return (digits ++ others, rest)
      | rest => .ok (digits, rest)

/-- The decimal digits at the front of a text, and the rest. -/
def takeDecimals (s : List Char) : Except SyntaxFault (List Char × List Char) :=
  takeGroups Char.isDigit (fun _ => .badNumber "decimal") (s.length + 1) s

/-- The fault of a character where a digit of another base than ten is missing. -/
def digitFault (kind : String) : Option Char → SyntaxFault
  | some c => if c.isDigit then .badDigit c kind else .badNumber kind
  | none => .badNumber kind

/-- Read a number in another base than ten. -/
def readBased (kind : String) (isDigit : Char → Bool) (s : List Char) :
    Except SyntaxFault NumberRead := do
  let digitsFrom := match s with
    | '_' :: rest => rest
    | s => s
  let (_, rest) ← takeGroups isDigit (digitFault kind) (s.length + 1) digitsFrom
  match rest with
  | c :: _ => if c.isDigit then throw (.badDigit c kind) else endNumber (.whole 0) kind rest
  | [] => endNumber (.whole 0) kind rest

def readUnit (form : NumberForm) (s : List Char) : Except SyntaxFault NumberRead :=
  match s with
  | c :: rest =>
    if c = 'j' || c = 'J' then endNumber .imaginary "imaginary" rest else endNumber form "decimal" s
  | [] => endNumber form "decimal" s

/-- Read what follows the whole part and the fraction of a number. A letter without digits after it
may begin a word. -/
def readExponent (form : NumberForm) (s : List Char) : Except SyntaxFault NumberRead :=
  match s with
  | e :: rest =>
    if e = 'e' || e = 'E' then
      match rest with
      | sign :: digits =>
        if sign = '+' || sign = '-' then do readUnit .fraction (← takeDecimals digits).2
        else if sign.isDigit then do readUnit .fraction (← takeDecimals rest).2
        else endNumber form "decimal" s
      | [] => endNumber form "decimal" s
    else readUnit form s
  | [] => readUnit form s

def readFraction (s : List Char) : Except SyntaxFault NumberRead := do
  if s.head?.any Char.isDigit then readExponent .fraction (← takeDecimals s).2
  else readExponent .fraction s

/-- Read a decimal number. A whole number does not begin with a zero, unless it is zero. -/
def readDecimal (s : List Char) : Except SyntaxFault NumberRead := do
  let (digits, rest) ← takeDecimals s
  let form := NumberForm.whole digits.length
  match rest with
  | '.' :: rest => readFraction rest
  | rest =>
    let continues := rest.head?.any fun c => ['e', 'E', 'j', 'J'].contains c
    if !continues && digits.head? = some '0' && digits.any (· ≠ '0') then throw .leadingZeros
    else readExponent form rest

def readNumber (s : List Char) : Except SyntaxFault NumberRead :=
  match s with
  | '.' :: rest => readFraction rest
  | '0' :: mark :: rest =>
    match mark.toLower with
    | 'x' =>
      readBased "hexadecimal" (fun c => c.isDigit || ('a' ≤ c.toLower && c.toLower ≤ 'f')) rest
    | 'o' => readBased "octal" (fun c => '0' ≤ c && c ≤ '7') rest
    | 'b' => readBased "binary" (fun c => c = '0' || c = '1') rest
    | _ => readDecimal s
  | s => readDecimal s

/-- The marks before a string that were seen. -/
structure Marks where
  bytes : Bool := false
  raw : Bool := false
  text : Bool := false
  formatted : Bool := false
deriving Repr, DecidableEq

/-- The marks with one more letter, if it can be added. -/
def Marks.add? (m : Marks) (c : Char) : Option Marks :=
  match c.toLower with
  | 'b' => if m.bytes || m.text || m.formatted then none else some { m with bytes := true }
  | 'u' =>
    if m.bytes || m.text || m.raw || m.formatted then none else some { m with text := true }
  | 'r' => if m.raw || m.text then none else some { m with raw := true }
  | 'f' => if m.formatted || m.bytes || m.text then none else some { m with formatted := true }
  | _ => none

/-- The letters that mark the string at the front of a text, if there is a string. -/
def stringMarks? (m : Marks) : List Char → Option (List Char × Marks)
  | [] => none
  | c :: rest =>
    if c = '"' || c = '\'' then some ([], m)
    else (m.add? c).bind fun m => (stringMarks? m rest).map fun found => (c :: found.1, found.2)

/-- The inside of a string in single quotes and the rest after it. A backslash guards the character
after it. -/
def untilQuote (quote : Char) : List Char → Option (List Char × List Char)
  | [] => none
  | c :: rest =>
    if c = quote then some ([], rest)
    else if c = '\n' then none
    else if c = '\\' then
      match rest with
      | [] => none
      | d :: rest => (untilQuote quote rest).map fun found => (c :: d :: found.1, found.2)
    else (untilQuote quote rest).map fun found => (c :: found.1, found.2)

/-- The inside of a string in triple quotes and the rest after it. -/
def untilTripleQuote (quote : Char) : List Char → Option (List Char × List Char)
  | [] => none
  | '\\' :: d :: rest =>
    (untilTripleQuote quote rest).map fun found => ('\\' :: d :: found.1, found.2)
  | c :: rest =>
    if c = quote && rest.take 2 = [quote, quote] then some ([], rest.drop 2)
    else (untilTripleQuote quote rest).map fun found => (c :: found.1, found.2)

/-- The number of line breaks in a text. -/
def breaks (s : List Char) : Nat := s.count '\n'

/-- The line breaks up to which an open string in single quotes was read. -/
def breaksToEnd : List Char → Nat
  | [] => 0
  | '\\' :: '\n' :: rest => if rest.isEmpty then 0 else breaksToEnd rest + 1
  | '\\' :: _ :: rest => breaksToEnd rest
  | '\n' :: _ => 0
  | _ :: rest => breaksToEnd rest

/-- Read a string from its first quote on: the string as it is written, and the rest. -/
def readString (line : Nat) (quote : Char) (s : List Char) :
    Except SyntaxFault (List Char × List Char) :=
  match s.drop 1 with
  | a :: b :: inner =>
    if a = quote && b = quote then
      match untilTripleQuote quote inner with
      | some (content, rest) =>
        .ok (List.replicate 3 quote ++ content ++ List.replicate 3 quote, rest)
      | none =>
        let last := if inner.getLast? = some '\n' then 1 else 0
        .error (.openTripleString (line + breaks inner - last))
    else single (a :: b :: inner)
  | inner => single inner
where
  /-- Read a string in single quotes. -/
  single (inner : List Char) : Except SyntaxFault (List Char × List Char) :=
    match untilQuote quote inner with
    | some (content, rest) => .ok (quote :: content ++ [quote], rest)
    | none => .error (.openString (line + breaksToEnd inner))

/-- Check that a word is a name: the first character that cannot stand where it stands is
wrong. -/
def wordFault? (word : List Char) : Option SyntaxFault :=
  if word.all fun c => c.toNat < 128 then none
  else
    let wrong :=
      match word with
      | [] => none
      | c :: rest => if Text.isNameStart c then rest.find? fun d => !Text.isNamePart d else some c
    wrong.map fun c => if Text.isPrintable c then .strangeChar c else .hiddenChar c

/-- The symbols of more than one character, longer ones first. -/
def longSymbols : List String :=
  ["**=", "//=", ">>=", "<<=", "...", "!=", "->", "==", "<=", ">=", "<>", ":=", "**", "//", "<<",
    ">>", "+=", "-=", "*=", "/=", "%=", "&=", "|=", "^=", "@="]

/-- The symbol at the front of a text. -/
def symbolAt (c : Char) (rest : List Char) : String :=
  (longSymbols.find? fun symbol => Text.startsWith (c :: rest) symbol.toList).getD c.toString

/-- The opening bracket of a closing one. -/
def openingOf? : Char → Option Char
  | ')' => some '('
  | ']' => some '['
  | '}' => some '{'
  | _ => none

/-- The number of brackets that may be open at once. -/
def maxLevel : Nat := 200

/-- The open brackets after a character, innermost first. -/
def followBracket (brackets : List (Char × Nat)) (line : Nat) (c : Char) :
    Except SyntaxFault (List (Char × Nat)) :=
  match openingOf? c with
  | none =>
    if c = '(' || c = '[' || c = '{' then
      if brackets.length < maxLevel then .ok ((c, line) :: brackets) else .error .tooNested
    else .ok brackets
  | some opening =>
    match brackets with
    | [] => .error (.unmatched c)
    | (innermost, start) :: outer =>
      if innermost = opening then .ok outer
      else .error (.crossed c innermost (if start = line then none else some start))

/-- Where reading stands: the open brackets, the line, whether a line begins outside brackets, and
whether the end of the text has been seen. -/
structure Standing where
  brackets : List (Char × Nat) := []
  line : Nat := 1
  lineStart : Bool := true
  foreseen : Bool := false
deriving Repr, DecidableEq

namespace Standing

def token (s : Standing) (lexeme : Lexeme) : Token :=
  { lexeme, level := s.brackets.length, line := s.line }

def stop (s : Standing) (fault : SyntaxFault) : Tokens :=
  { stop := some { fault, openBrackets := s.brackets } }

/-- The stop at the end of the text. -/
def ended (s : Standing) : Tokens :=
  match s.brackets with
  | [] => { tokens := [s.token .finish] }
  | (bracket, _) :: _ =>
    { stop := some { fault := .unclosed bracket, plain := false, openBrackets := s.brackets,
                     foreseen := s.foreseen } }

/-- The stop after a backslash that does not continue a line. -/
def discontinued (s : Standing) (fault : SyntaxFault) : Tokens :=
  { stop := some { fault, plain := false, openBrackets := s.brackets } }

end Standing

/-- Tokens with one more in front. -/
def Tokens.after (t : Token) (others : Tokens) : Tokens :=
  { others with tokens := t :: others.tokens }

/-- Whether a character is a blank between tokens. -/
def isGap (c : Char) : Bool := c = ' ' || c = '\t' || c = '\x0c'

/-- Whether a line is indented. A form feed begins the line anew. -/
def indented (line : List Char) : Bool :=
  (line.takeWhile isGap).getLast?.any (· ≠ '\x0c')

/-- The tokens of a text, in at most `fuel` steps. -/
def tokensFrom : Nat → Standing → List Char → Tokens
  | 0, s, _ => s.ended
  | _ + 1, s, [] => s.ended
  | fuel + 1, s, c :: rest =>
    if s.lineStart then
      -- A line without tokens has no indentation.
      let inner := (c :: rest).dropWhile isGap
      let begun := { s with lineStart := false }
      match inner with
      | [] => if indented (c :: rest) then s.ended.after (s.token .indent) else s.ended
      | '\\' :: _ => tokensFrom fuel begun inner
      | '#' :: _ => tokensFrom fuel s (inner.dropWhile (· ≠ '\n'))
      | '\n' :: rest => tokensFrom fuel { s with line := s.line + 1 } rest
      | _ =>
        let others := tokensFrom fuel begun inner
        if indented (c :: rest) then others.after (s.token .indent) else others
    else if isGap c then tokensFrom fuel { s with foreseen := false } rest
    else if c = '#' then tokensFrom fuel s (rest.dropWhile (· ≠ '\n'))
    else if c = '\n' then
      if s.brackets.isEmpty then
        (tokensFrom fuel { s with line := s.line + 1, lineStart := true } rest).after
          (s.token .newline)
      -- Inside of brackets a line break is a blank.
      else tokensFrom fuel { s with line := s.line + 1 } rest
    else if c = '\\' then
      match rest with
      | '\n' :: [] =>
        match s.brackets with
        | [] => s.discontinued .endOfText
        | (bracket, _) :: _ => s.discontinued (.unclosed bracket)
      | '\n' :: rest => tokensFrom fuel { s with line := s.line + 1 } rest
      | _ => s.discontinued .lineContinuation
    else if c.isDigit || (c = '.' && rest.head?.any Char.isDigit) then
      match readNumber (c :: rest) with
      | .error fault => s.stop fault
      | .ok number =>
        let others := tokensFrom fuel { s with foreseen := number.rest.isEmpty } number.rest
        { others.after (s.token (.number number.form)) with
          touching := (number.touching.map fun kind => (s.line, kind)).toList ++ others.touching }
    else
      match stringMarks? {} (c :: rest) with
      | some (marks, _) =>
        match (c :: rest).drop marks.length with
        | quote :: inner =>
          match readString s.line quote (quote :: inner) with
          | .error fault => s.stop fault
          | .ok (written, rest) =>
            (tokensFrom fuel { s with line := s.line + breaks written } rest).after
              (s.token (.string (marks ++ written)))
        | [] => s.ended
      | none =>
        if isWordPart c then
          let word := (c :: rest).takeWhile isWordPart
          match wordFault? word with
          | some fault => s.stop fault
          | none =>
            let text := String.ofList word
            let lexeme := if keywords.contains text then Lexeme.keyword text else .name text
            let rest := (c :: rest).drop word.length
            (tokensFrom fuel { s with foreseen := rest.isEmpty } rest).after (s.token lexeme)
        else
          let symbol := symbolAt c rest
          match if symbol.length = 1 then followBracket s.brackets s.line c else .ok s.brackets with
          | .error fault => s.stop fault
          | .ok brackets =>
            if c.toNat < 32 || c.toNat = 127 then s.stop (.hiddenChar c)
            else
              let rest := rest.drop (symbol.length - 1)
              let s := { s with brackets, foreseen := rest.isEmpty && symbol ≠ "..." }
              (tokensFrom fuel s rest).after (s.token (.symbol symbol))

def tokensOf (s : List Char) : Tokens :=
  let text := plainBreaks s
  tokensFrom (2 * text.length + 1) {} text

end SymbolReference.Expression

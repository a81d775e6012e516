import SymbolReference.Expression.Escape
import SymbolReference.Expression.Parser

namespace SymbolReference.Expression

/-- The literal at the front of a text, whether a doubled brace ends it, and the rest. `top` says that
the text is no format. The literal collected so far is kept in reverse. -/
def literalPart (raw top : Bool) :
    Nat → List Char → List Char → Except SyntaxFault (List Char × Bool × List Char)
  | 0, literal, s => .ok (literal.reverse, false, s)
  | _ + 1, literal, [] => .ok (literal.reverse, false, [])
  | fuel + 1, literal, c :: rest =>
    let brace := fun (literal : List Char) (c : Char) (rest : List Char) =>
      if top && rest.head? = some c then
        Except.ok ((c :: literal).reverse, true, rest.drop 1)
      else if top && c = '}' then .error .loneBrace
      else .ok (literal.reverse, false, c :: rest)
    match raw, c, rest with
    | false, '\\', 'N' :: '{' :: inner =>
      let name := inner.takeWhile (· ≠ '}')
      let taken := inner.take (name.length + 1)
      literalPart raw top fuel (taken.reverse ++ '{' :: 'N' :: '\\' :: literal)
        (inner.drop taken.length)
    | false, '\\', d :: rest =>
      if d = '{' || d = '}' then brace ('\\' :: literal) d rest
      else literalPart raw top fuel (d :: '\\' :: literal) rest
    | _, c, rest =>
      if c = '{' || c = '}' then brace literal c rest
      else literalPart raw top fuel (c :: literal) rest

/-- The expression at the front of a part and the rest, which begins where the expression ends. The
expression collected so far is kept in reverse. A string inside is given by its quote and whether
it is in triple quotes. -/
def partExpression : Nat → Option (Char × Bool) → List Char → List Char → List Char →
    Except SyntaxFault (List Char × List Char)
  | 0, _, _, taken, s => .ok (taken.reverse, s)
  | _ + 1, string, brackets, taken, [] =>
    match string, brackets with
    | some _, _ => .error .partOpenString
    | none, opening :: _ => .error (.partUnmatched opening)
    | none, [] => .ok (taken.reverse, [])
  | fuel + 1, string, brackets, taken, c :: rest =>
    let tripled := rest.take 2 = [c, c]
    let next := partExpression fuel
    if c = '\\' then .error .partBackslash
    else
      match string with
      | some (quote, true) =>
        if c = quote && tripled then next none brackets (c :: c :: c :: taken) (rest.drop 2)
        else next string brackets (c :: taken) rest
      | some (quote, false) =>
        next (if c = quote then none else string) brackets (c :: taken) rest
      | none =>
        if c = '"' || c = '\'' then
          if tripled then next (some (c, true)) brackets (c :: c :: c :: taken) (rest.drop 2)
          else next (some (c, false)) brackets (c :: taken) rest
        else if c = '(' || c = '[' || c = '{' then
          if brackets.length < maxLevel then next none (c :: brackets) (c :: taken) rest
          else .error .partTooNested
        else if c = '#' then .error .partComment
        else if brackets.isEmpty && ['!', ':', '}', '=', '<', '>'].contains c then
          -- A comparison is written with marks that end an expression when they stand alone.
          if ['!', '=', '<', '>'].contains c && rest.head? = some '=' then
            next none brackets ('=' :: c :: taken) (rest.drop 1)
          else if c = '<' || c = '>' then next none brackets (c :: taken) rest
          else .ok (taken.reverse, c :: rest)
        else
          match openingOf? c, brackets with
          | none, _ => next none brackets (c :: taken) rest
          | some _, [] => .error (.partUnmatched c)
          | some opening, innermost :: outer =>
            if innermost = opening then next none outer (c :: taken) rest
            else .error (.partCrossed c innermost)

/-- Whether a character is a blank inside an expression. -/
def isBlankInPart (c : Char) : Bool := c = ' ' || c = '\t' || c = '\n' || c = '\x0c' || c = '\r'

/-- What is wrong with an expression that is only blanks, before a character. -/
def emptyPart (next : Option Char) : SyntaxFault :=
  match next with
  | some c => if c = '!' || c = ':' || c = '=' then .partMissing c else .partEmpty
  | none => .partEmpty

abbrev PartReader : Type := List Char → Except Failure Unit

def raising {α : Type} (result : Except SyntaxFault α) : Except Failure α :=
  result.mapError fun fault => { fault }

/-- The rest of a part after its expression and an equals sign. -/
def afterEquals (s : List Char) : List Char :=
  match s with
  | '=' :: rest => rest.dropWhile fun c => isBlankInPart c || c = '\x0b'
  | s => s

def afterConversion (s : List Char) : Except SyntaxFault (List Char) :=
  match s with
  | ['!'] => .error .partBrace
  | '!' :: c :: rest => if c = 's' || c = 'r' || c = 'a' then .ok rest else .error .partConversion
  | s => .ok s

/-- Read a text with parts, in at most `fuel` steps, and give the rest. `depth` counts the formats
that the text is in. -/
def readParts (read : PartReader) (raw : Bool) :
    Nat → Nat → List Char → Except Failure (List Char)
  | 0, _, s => .ok s
  | fuel + 1, depth, s => do
    let (literal, doubled, rest) ← raising (literalPart raw (depth == 0) (s.length + 1) [] s)
    if !raw then
      if let some fault := textFault? literal then throw { fault }
    if doubled then readParts read raw fuel depth rest
    else
      match rest with
      | '{' :: inner =>
        if 2 ≤ depth then throw { fault := .partsTooDeep }
        let (expression, rest) ← raising (partExpression (inner.length + 1) none [] [] inner)
        if rest.isEmpty then throw { fault := .partBrace }
        if expression.all isBlankInPart then throw { fault := emptyPart rest.head? }
        -- In parentheses, so that a line break does not end the expression.
        read ('(' :: expression ++ [')'])
        let rest := afterEquals rest
        if rest.isEmpty then throw { fault := .partBrace }
        let rest ← raising (afterConversion rest)
        let rest ← match rest with
          | [':'] => throw { fault := .partBrace }
          | ':' :: format => do
            let rest ← readParts read raw fuel (depth + 1) format
            if rest.head? = some '}' then pure rest else throw { fault := .partBrace }
          | rest => pure rest
        match rest with
        | '}' :: rest => readParts read raw fuel depth rest
        | _ => throw { fault := .partBrace }
      | rest => return rest

def readFormatted (read : PartReader) (raw : Bool) (s : List Char) : Except Failure Unit := do
  let _ ← readParts read raw (2 * s.length + 2) 0 s

/-- Check strings that stand side by side, given whether those before are bytes. -/
def checkStrings (read : PartReader) : Option Bool → List StringParts → Except Failure Unit
  | _, [] => return ()
  | before, s :: others => do
    let fault :=
      if s.marks.formatted then none
      else if s.marks.bytes then bytesFault? s.marks.raw s.inside
      else if s.marks.raw then none
      else textFault? s.inside
    if let some fault := fault then throw { fault }
    if before.any (· ≠ s.marks.bytes) then throw { fault := .mixedStrings }
    if s.marks.formatted then readFormatted read s.marks.raw s.inside
    checkStrings read (some s.marks.bytes) others

/-- What strings that stand side by side are together. -/
def stringsExpr (parts : List StringParts) : Expr :=
  if parts.any fun s => s.marks.formatted then .formatted
  else if parts.any fun s => s.marks.bytes then .constant .bytes
  else .constant .text

end SymbolReference.Expression

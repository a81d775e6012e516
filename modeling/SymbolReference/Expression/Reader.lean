import SymbolReference.Expression.Grammar

namespace SymbolReference.Expression

def Reading.lastLine (r : Reading) : Nat :=
  (r.tokens[r.seen - 1]?.map Token.line).getD 0

/-- The failure of a reading in view of the tokens after it: a character or bracket that is wrong by
itself comes first, and so does a bracket of an earlier line that stays open. -/
def Reading.overrule (r : Reading) (f : Failure) : Failure :=
  match r.stop with
  | none => f
  | some stop =>
    if stop.plain then { fault := stop.fault, worded := true }
    else
      match stop.openBrackets with
      | (bracket, line) :: _ => if line < r.lastLine then { fault := .unclosed bracket } else f
      | [] => f

/-- The failure of a reading that found a fault. The tokens after it do not matter when the next one
could not be read or when there are none. -/
def Reading.settle (r : Reading) (f : Failure) : Failure :=
  let finished := r.tokens.size ≤ r.seen && r.stop.any Stop.foreseen
  if f.atToken || finished then f else r.overrule f

/-- The failure of an expression, which may be a part of a text. -/
def Failure.inContext (part : Bool) (f : Failure) : Failure :=
  { fault := if part && !f.worded then .inPart f.fault else f.fault, worded := true }

/-- The failure of a text that does not match, after both readings. The last token of the first one
says what is wrong when nothing special is. -/
def unmatchedFailure (first second : Reading) : Failure :=
  match first.tokens[first.seen - 1]?.map Token.lexeme with
  | some .indent => { fault := .unexpectedIndent }
  | _ => second.overrule { fault := .order }

def readTokens (rule : Parser Expr) (t : Tokens) : Except Failure Expr :=
  let start : Reading := { tokens := t.tokens.toArray, stop := t.stop }
  match rule.run start with
  | .ok (some e) _ => .ok e
  | .error f r => .error (r.settle f)
  | .ok none first =>
    match rule.run { start with seen := first.seen, looksForFaults := true } with
    | .error f r => .error (r.settle f)
    | .ok _ second => .error (unmatchedFailure first second)

/-- Read a text, in which other expressions may be parts of texts up to a depth. `part` says that it
is such an expression itself. -/
def readText : Nat → Bool → List Char → Except Failure Expr
  | 0, _, _ => .error { fault := .order }
  | depth + 1, part, s =>
    let t := tokensOf s
    let r := rules (fun inner => (readText depth true inner).map fun _ => ()) (t.tokens.length + 2)
    (readTokens (if part then r.starExpressions else wholeExpression r) t).mapError
      (Failure.inContext part)

/-- Read an expression. Blanks before it do not count. -/
def read (s : List Char) : Except SyntaxFault Expr :=
  (readText (s.length + 1) false (s.dropWhile fun c => c = ' ' || c = '\t')).mapError
    Failure.fault

end SymbolReference.Expression

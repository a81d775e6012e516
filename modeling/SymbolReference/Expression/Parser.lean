import Std.Data.HashMap
import SymbolReference.Expression.Basic
import SymbolReference.Expression.Token

/-!
Parsers over tokens.

A parser matches tokens from a place on, does not match, or fails with a fault, which ends the
whole reading. Alternatives are tried in order and each from the same place. What some rules match
at a place is remembered, also when they are tried again while faults are looked for.
-/

namespace SymbolReference.Expression

/-- A fault that ends a reading. `atToken` says that the next token could not be read, `worded` that
the message stands as it is wherever the expression is a part of something else. -/
structure Failure where
  fault : SyntaxFault
  atToken : Bool := false
  worded : Bool := false
deriving Repr, DecidableEq

/-- The rules whose matches are remembered. -/
inductive Rule where
  | expression
  | starExpression
  | disjunction
  | conjunction
  | inversion
  | bitwiseOr
  | bitwiseXor
  | bitwiseAnd
  | shift
  | sum
  | term
  | factor
  | awaitPrimary
  | primary
  | strings
  | arguments
  | starTarget
  | targetAtom
  | targetPrimary
  | invalidNamed
deriving Repr, DecidableEq, Hashable

/-- Where a reading stands: the tokens, the place of the next one, how many have been looked at,
whether faults are looked for, and what was matched before at which place. -/
structure Reading where
  tokens : Array Token
  stop : Option Stop := none
  place : Nat := 0
  seen : Nat := 0
  looksForFaults : Bool := false
  memory : Std.HashMap (Rule × Nat) (Option Expr × Nat) := {}

abbrev Parser (α : Type) : Type := OptionT (EStateM Failure Reading) α

namespace Parser

variable {α β : Type}

/-- The next token, without taking it. -/
def peek : Parser Token := do
  let r ← getThe Reading
  match r.tokens[r.place]? with
  | some t =>
    set { r with seen := max r.seen (r.place + 1) }
    return t
  | none =>
    match r.stop with
    | some stop =>
      throwThe Failure { fault := stop.fault, atToken := true, worded := stop.plain }
    | none => failure

def satisfy (test : Token → Bool) : Parser Token := do
  let t ← peek
  if test t then
    modifyThe Reading fun r => { r with place := r.place + 1 }
    return t
  else failure

def goTo (place : Nat) : Parser Unit :=
  modifyThe Reading fun r => { r with place }

/-- What a parser matches, if it matches. -/
def result (p : Parser α) : Parser (Option α) :=
  OptionT.lift p.run

/-- What a parser matches, or nothing; then the place stays. -/
def maybe (p : Parser α) : Parser (Option α) := do
  let start := (← getThe Reading).place
  let found ← result p
  if found.isNone then goTo start
  return found

/-- Match nothing if there is something. -/
def ofOption : Option α → Parser α
  | some a => return a
  | none => failure

def firstOf : List (Parser α) → Parser α
  | [] => failure
  | p :: others => do
    match ← maybe p with
    | some a => return a
    | none => firstOf others

/-- Match without taking any token. -/
def ahead (p : Parser α) : Parser α := do
  let start := (← getThe Reading).place
  let a ← p
  goTo start
  return a

/-- Match nothing, provided that a parser does not match. -/
def notAhead (p : Parser α) : Parser Unit := do
  let start := (← getThe Reading).place
  match ← maybe p with
  | some _ =>
    goTo start
    failure
  | none => return ()

/-- Match as often as possible, at most `fuel` times. -/
def manyUpTo (p : Parser α) : Nat → Parser (List α)
  | 0 => return []
  | fuel + 1 => do
    match ← maybe p with
    | some a => return a :: (← manyUpTo p fuel)
    | none => return []

/-- Match as often as possible. -/
def many (p : Parser α) : Parser (List α) := do
  manyUpTo p ((← getThe Reading).tokens.size + 1)

/-- Match at least once and as often as possible. -/
def many1 (p : Parser α) : Parser (List α) := do
  return (← p) :: (← many p)

/-- Match at least once, with a separator between two matches. -/
def separated (separator : Parser β) (p : Parser α) : Parser (List α) := do
  return (← p) :: (← many (do let _ ← separator; p))

/-- Match only while faults are looked for. -/
def onlyForFaults (p : Parser α) : Parser α := do
  if (← getThe Reading).looksForFaults then p else failure

/-- Match while no faults are looked for. -/
def withoutFaults (p : Parser α) : Parser α := do
  let before := (← getThe Reading).looksForFaults
  modifyThe Reading fun r => { r with looksForFaults := false }
  let found ← result p
  modifyThe Reading fun r => { r with looksForFaults := before }
  ofOption found

def fail (fault : SyntaxFault) : Parser α :=
  throwThe Failure { fault }

/-- What a rule matches, remembered for the place where it begins. -/
def remembered (rule : Rule) (p : Parser Expr) : Parser Expr := do
  let r ← getThe Reading
  let start := r.place
  match r.memory[(rule, start)]? with
  | some (found, stop) =>
    goTo stop
    ofOption found
  | none =>
    let found ← result p
    modifyThe Reading fun r =>
      let stop := if found.isSome then r.place else start
      { r with place := stop, memory := r.memory.insert (rule, start) (found, stop) }
    ofOption found

def symbol (text : String) : Parser Token :=
  satisfy fun t => t.lexeme = .symbol text

/-- One of several symbols, as its text. -/
def oneOf (texts : List String) : Parser String := do
  let t ← satisfy fun t =>
    match t.lexeme with
    | .symbol text => texts.contains text
    | _ => false
  match t.lexeme with
  | .symbol text => return text
  | _ => failure

def keyword (text : String) : Parser Token :=
  satisfy fun t => t.lexeme = .keyword text

def name : Parser String := do
  let t ← peek
  match t.lexeme with
  | .name text =>
    modifyThe Reading fun r => { r with place := r.place + 1 }
    return text
  | _ => failure

def string : Parser (List Char) := do
  let t ← peek
  match t.lexeme with
  | .string text =>
    modifyThe Reading fun r => { r with place := r.place + 1 }
    return text
  | _ => failure

def number : Parser NumberForm := do
  let t ← peek
  match t.lexeme with
  | .number form =>
    modifyThe Reading fun r => { r with place := r.place + 1 }
    return form
  | _ => failure

def leftAssociative (operators : List String) (operand : Parser Expr) : Parser Expr := do
  let first ← operand
  let others ← many (do
    let operator ← oneOf operators
    return (operator, ← operand))
  return others.foldl (fun left right => .binary right.1 left right.2) first

end Parser

end SymbolReference.Expression

namespace SymbolReference.Expression

/-- A constant that is written as a literal. -/
inductive Constant where
  | none
  | true
  | false
  | ellipsis
  | whole
  | fraction
  | imaginary
  | text
  | bytes
deriving Repr, DecidableEq

/-- An expression. The arguments of a call that stand alone have no function. An entry of a
dictionary that spreads another one has no key. -/
inductive Expr where
  | name (text : String)
  | constant (c : Constant)
  | formatted
  | tuple (items : List Expr)
  | set (items : List Expr)
  | dict (keys values : List Expr)
  | noKey
  | generator
  | setComprehension
  | dictComprehension
  | arguments (positional : List Expr) (keywords : List (Option String))
  | call (function : Expr) (positional : Nat) (keywords : Nat)
  | member
  | starred (e : Expr)
  | lambda
  | conditional
  | boolean
  | unary (symbol : String) (operand : Expr)
  | binary (symbol : String) (left right : Expr)
  | comparison (symbol : String) (left : Expr)
  | await
  | yield
  | named
deriving Repr

namespace Expr

/-- What an expression is called in messages. -/
def kind : Expr → String
  | member => "attribute"
  | starred _ => "starred"
  | name _ => "name"
  | tuple _ => "tuple"
  | lambda => "lambda"
  | call _ _ _ | arguments _ _ => "function call"
  | boolean | binary _ _ _ | unary _ _ => "expression"
  | generator => "generator expression"
  | yield => "yield expression"
  | await => "await expression"
  | setComprehension => "set comprehension"
  | dictComprehension => "dict comprehension"
  | dict _ _ | noKey => "dict literal"
  | set _ => "set display"
  | formatted => "f-string expression"
  | constant .none => "None"
  | constant .false => "False"
  | constant .true => "True"
  | constant .ellipsis => "ellipsis"
  | constant _ => "literal"
  | comparison _ _ => "comparison"
  | conditional => "conditional expression"
  | named => "named expression"

/-- Whether an expression is the name of a statement of old, which needed no parentheses. -/
def isOldStatement : Expr → Bool
  | name text => text = "print" || text = "exec"
  | _ => false

mutual

/-- The first part of an expression that cannot be the target of a loop. What stands before the
word `in` counts as the target. -/
def invalidTarget? : Expr → Option Expr
  | tuple items => invalidTargetIn? items
  | starred e => invalidTarget? e
  | comparison symbol left => if symbol = "in" then invalidTarget? left else none
  | name _ | member => none
  | e => some e

/-- The first such part among several expressions. -/
def invalidTargetIn? : List Expr → Option Expr
  | [] => none
  | e :: others => invalidTarget? e <|> invalidTargetIn? others

end

end Expr

end SymbolReference.Expression

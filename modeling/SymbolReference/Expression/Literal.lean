import SymbolReference.Expression.Reader

namespace SymbolReference.Expression

inductive Literal where
  | whole
  | fraction
  | complex
  | plain
  | tuple (items : List Literal)
  | set
  | dict
deriving Repr

/-- Why a text has no value: it is no expression, the expression is no literal, or a member or key
cannot be one. -/
inductive LiteralFault where
  | unreadable (fault : SyntaxFault)
  | malformed (shown : String)
  | unhashable (typeName : String)
deriving Repr, DecidableEq

/-- The message about a text without a value. -/
def LiteralFault.message : LiteralFault → String
  | unreadable fault => fault.message
  | malformed shown => "malformed node or string" ++ shown
  | unhashable typeName => "unhashable type: '" ++ typeName ++ "'"

namespace Literal

mutual

/-- The type of a value, or of a part of it, that cannot be a member or key. -/
def unhashable? : Literal → Option String
  | set => some "set"
  | dict => some "dict"
  | tuple items => unhashableIn? items
  | whole | fraction | complex | plain => none

/-- The first such type among several values. -/
def unhashableIn? : List Literal → Option String
  | [] => none
  | l :: others => unhashable? l <|> unhashableIn? others

end

/-- A value that becomes a member or key. -/
def hashed (l : Literal) : Except LiteralFault Literal :=
  match l.unhashable? with
  | some typeName => .error (.unhashable typeName)
  | none => .ok l

/-- Whether a value is a whole or floating-point number. -/
def isReal : Literal → Bool
  | whole | fraction => true
  | _ => false

/-- Whether a value is a complex number. -/
def isComplex : Literal → Bool
  | complex => true
  | _ => false

end Literal

namespace Expr

def numberValue : Expr → Except LiteralFault Literal
  | constant .whole => .ok .whole
  | constant .fraction => .ok .fraction
  | constant .imaginary => .ok .complex
  | noKey => .error (.malformed ": None")
  | _ => .error (.malformed "")

/-- The value of an expression that is a number with a sign or without. -/
def signedValue : Expr → Except LiteralFault Literal
  | unary symbol operand =>
    if symbol = "+" || symbol = "-" then operand.numberValue else .error (.malformed "")
  | e => e.numberValue

def checkMembers : List (Except LiteralFault Literal) → Except LiteralFault Unit
  | [] => .ok ()
  | l :: others => do
    let _ ← (← l).hashed
    checkMembers others

/-- Check values that are the keys and values of a dictionary. -/
def checkEntries : List (Except LiteralFault Literal × Except LiteralFault Literal) →
    Except LiteralFault Unit
  | [] => .ok ()
  | (key, l) :: others => do
    let k ← key
    let _ ← l
    let _ ← k.hashed
    checkEntries others

mutual

def value : Expr → Except LiteralFault Literal
  | constant .whole => .ok .whole
  | constant .fraction => .ok .fraction
  | constant .imaginary => .ok .complex
  | constant _ => .ok .plain
  | tuple items => do return .tuple (← (values items).mapM id)
  | set items => do
    checkMembers (values items)
    return .set
  | dict keys entryValues => do
    checkEntries ((values keys).zip (values entryValues))
    return .dict
  | call (name function) 0 0 => if function = "set" then .ok .set else .error (.malformed "")
  | binary symbol left right => do
    if symbol = "+" || symbol = "-" then
      let l ← left.signedValue
      let r ← right.numberValue
      if l.isReal && r.isComplex then return .complex
    throw (.malformed "")
  | e => e.signedValue

def values : List Expr → List (Except LiteralFault Literal)
  | [] => []
  | e :: others => value e :: values others

end

end Expr

def checkLiteral (s : List Char) : Except LiteralFault Unit := do
  let e ← (read s).mapError LiteralFault.unreadable
  let _ ← e.value

end SymbolReference.Expression

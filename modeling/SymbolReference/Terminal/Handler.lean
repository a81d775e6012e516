import SymbolReference.Expression.Literal

namespace SymbolReference.Terminal

/-- The arguments of a handler: the last part, in parentheses, of a name with arguments, or an empty
pair of parentheses for a name alone. A text of another form stands for itself. -/
def handlerArguments (s : List Char) : List Char :=
  match s.dropWhile fun c => Text.isWordChar c || c = '.' with
  | [] => "()".toList
  | '(' :: rest =>
    if rest.getLast? = some ')' && !rest.contains '\n' then '(' :: rest else s
  | _ => s

/-- What is said about the arguments of a handler that are no literal. Where they cannot be read at
all, it shows them too. -/
def handlerMessage (arguments text : String) (fault : Expression.LiteralFault) : String :=
  match fault with
  | .unreadable fault =>
    "error parsing " ++ Text.quote arguments ++ " in " ++ Text.quote text ++ "; " ++ fault.message
  | fault => "error parsing " ++ Text.quote text ++ "; " ++ fault.message

/-- The warnings about the arguments of a handler, a line each: a number should not touch the word
after it. -/
def handlerWarnings (arguments : String) : List String :=
  (Expression.tokensOf arguments.toList).touching.map fun place =>
    "<unknown>:" ++ toString place.1 ++ ": SyntaxWarning: " ++
      (Expression.SyntaxFault.badNumber place.2).message

end SymbolReference.Terminal

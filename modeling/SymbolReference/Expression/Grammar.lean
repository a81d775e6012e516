import SymbolReference.Expression.Formatted

/-!
The grammar of expressions.

Every rule is a parser. Rules that refer back to a larger kind of expression do so only after they
have taken a token; they take those rules from a record, so that the whole grammar is made by
recursion on how deep expressions can be nested. The rules named for faults match nothing: they
look for what a wrong expression was meant to be, and fail with that fault.
-/

namespace SymbolReference.Expression

open SymbolReference.Expression.Parser

/-- The rules that others refer back to. -/
structure Rules where
  expression : Parser Expr
  disjunction : Parser Expr
  inversion : Parser Expr
  bitwiseOr : Parser Expr
  factor : Parser Expr
  namedExpression : Parser Expr
  starNamedExpression : Parser Expr
  starExpressions : Parser Expr
  arguments : Parser Expr
  starTarget : Parser Expr
  targetAtom : Parser Expr

/-- The rules of expressions that cannot be nested at all: nothing matches. -/
def Rules.flat : Rules where
  expression := failure
  disjunction := failure
  inversion := failure
  bitwiseOr := failure
  factor := failure
  namedExpression := failure
  starNamedExpression := failure
  starExpressions := failure
  arguments := failure
  starTarget := failure
  targetAtom := failure

namespace Rules

variable (r : Rules)

def assignmentExpression : Parser Expr := do
  let _ ← name
  let _ ← symbol ":="
  let _ ← r.expression
  return .named

/-- An expression that is not the target of an assignment. -/
def unassigned (expression : Parser Expr) : Parser Expr := do
  let e ← expression
  notAhead (symbol ":=")
  return e

/-- Expressions of a tuple or set, with an optional comma at the end. -/
def starNamedExpressions : Parser (List Expr) := do
  let items ← separated (symbol ",") r.starNamedExpression
  let _ ← maybe (symbol ",")
  return items

/-- An expression with a star. A star alone is a fault. -/
def starredExpression : Parser Expr :=
  firstOf [do
      let _ ← symbol "*"
      return .starred (← r.expression),
    do
      let _ ← symbol "*"
      fail .starAlone]

def yieldExpression : Parser Expr :=
  firstOf [do
      let _ ← keyword "yield"
      let _ ← keyword "from"
      let _ ← r.expression
      return .yield,
    do
      let _ ← keyword "yield"
      let _ ← maybe r.starExpressions
      return .yield]

def starTargets : Parser Expr :=
  firstOf [do
      let target ← r.starTarget
      notAhead (symbol ",")
      return target,
    do
      let first ← r.starTarget
      let others ← many (do let _ ← symbol ","; r.starTarget)
      let _ ← maybe (symbol ",")
      return .tuple (first :: others)]

/-- The fault of a loop over something that is no target. -/
def invalidForTarget : Parser Unit := do
  let _ ← maybe (keyword "async")
  let _ ← keyword "for"
  let targets ← r.starExpressions
  match targets.invalidTarget? with
  | some wrong => fail (.target wrong.kind)
  | none => failure

def loopHead : Parser Unit := do
  let _ ← keyword "for"
  let _ ← r.starTargets
  let _ ← keyword "in"

/-- What follows the head of a loop. -/
def loopTail : Parser Unit := do
  let _ ← r.disjunction
  let _ ← many (do let _ ← keyword "if"; r.disjunction)

/-- A loop of a comprehension. After its head nothing else is tried. -/
def forIfClause : Parser Unit := do
  let head ← maybe (firstOf [do
      let _ ← keyword "async"
      r.loopHead,
    r.loopHead])
  if head.isSome then r.loopTail else onlyForFaults r.invalidForTarget

/-- The loops of a comprehension. -/
def forIfClauses : Parser Unit := do
  let _ ← many1 r.forIfClause

def invalidComprehension (brackets : List String) : Parser Expr :=
  onlyForFaults (firstOf [do
      let _ ← oneOf brackets
      let _ ← r.starredExpression
      r.forIfClauses
      fail .starredComprehension,
    do
      let _ ← symbol "\x7b"
      let _ ← r.starNamedExpression
      let _ ← symbol ","
      let _ ← r.starNamedExpressions
      r.forIfClauses
      fail .comprehensionTarget,
    do
      let _ ← symbol "\x7b"
      let _ ← r.starNamedExpression
      let _ ← symbol ","
      r.forIfClauses
      fail .comprehensionTarget])

def generator : Parser Expr :=
  firstOf [do
      let _ ← symbol "("
      let _ ← firstOf [r.assignmentExpression, unassigned r.expression]
      r.forIfClauses
      let _ ← symbol ")"
      return .generator,
    r.invalidComprehension ["(", "\x7b"]]

def tuple : Parser Expr := do
  let _ ← symbol "("
  let items ← maybe (do
    let first ← r.starNamedExpression
    let _ ← symbol ","
    let others ← maybe r.starNamedExpressions
    return first :: others.getD [])
  let _ ← symbol ")"
  return .tuple (items.getD [])

/-- The faults of an expression in parentheses. -/
def invalidGroup : Parser Expr :=
  firstOf [do
      let _ ← symbol "("
      let _ ← r.starredExpression
      let _ ← symbol ")"
      fail .starredGroup,
    do
      let _ ← symbol "("
      let _ ← symbol "**"
      let _ ← r.expression
      let _ ← symbol ")"
      fail .doubleStarredGroup]

/-- An expression in parentheses. -/
def group : Parser Expr :=
  firstOf [do
      let _ ← symbol "("
      let e ← firstOf [r.yieldExpression, r.namedExpression]
      let _ ← symbol ")"
      return e,
    onlyForFaults r.invalidGroup]

def keyValue : Parser (Expr × Expr) := do
  let key ← r.expression
  let _ ← symbol ":"
  return (key, ← r.expression)

/-- An entry of a dictionary, or another dictionary that is spread. -/
def entry : Parser (Expr × Expr) :=
  firstOf [do
      let _ ← symbol "**"
      return (.noKey, ← r.bitwiseOr),
    r.keyValue]

/-- The fault of a value that is starred or missing. -/
def invalidValue : Parser Unit :=
  firstOf [do
      let _ ← r.expression
      let _ ← symbol ":"
      let _ ← symbol "*"
      let _ ← r.bitwiseOr
      fail .starredValue,
    do
      let _ ← r.expression
      let _ ← symbol ":"
      let _ ← ahead (oneOf ["\x7d", ","])
      fail .missingValue]

/-- The faults of the entries of a dictionary. They are looked for in any case. -/
def invalidEntries : Parser Unit :=
  firstOf [do
      let _ ← separated (symbol ",") r.entry
      let _ ← symbol ","
      firstOf [do
          let _ ← r.expression
          notAhead (symbol ":")
          fail .missingColon,
        r.invalidValue],
    r.invalidValue]

/-- A dictionary. -/
def dict : Parser Expr :=
  firstOf [do
      let _ ← symbol "\x7b"
      let entries ← maybe (do
        let entries ← separated (symbol ",") r.entry
        let _ ← maybe (symbol ",")
        return entries)
      let _ ← symbol "\x7d"
      let entries := entries.getD []
      return .dict (entries.map Prod.fst) (entries.map Prod.snd),
    do
      let _ ← symbol "\x7b"
      r.invalidEntries
      let _ ← symbol "\x7d"
      return .dict [] []]

def set : Parser Expr := do
  let _ ← symbol "\x7b"
  let items ← r.starNamedExpressions
  let _ ← symbol "\x7d"
  return .set items

def dictComprehension : Parser Expr :=
  firstOf [do
      let _ ← symbol "\x7b"
      let _ ← r.keyValue
      r.forIfClauses
      let _ ← symbol "\x7d"
      return .dictComprehension,
    onlyForFaults (do
      let _ ← symbol "\x7b"
      let _ ← symbol "**"
      let _ ← r.bitwiseOr
      r.forIfClauses
      let _ ← symbol "\x7d"
      fail .spreadComprehension)]

def setComprehension : Parser Expr :=
  firstOf [do
      let _ ← symbol "\x7b"
      let _ ← r.namedExpression
      r.forIfClauses
      let _ ← symbol "\x7d"
      return .setComprehension,
    r.invalidComprehension ["(", "\x7b"]]

/-- The number of digits that a whole number may have. -/
def maxDigits : Nat := 4300

def numberExpr : Parser Expr := do
  match ← number with
  | .whole digits =>
    if maxDigits < digits then fail (.tooManyDigits digits) else return .constant .whole
  | .fraction => return .constant .fraction
  | .imaginary => return .constant .imaginary

/-- Strings side by side. -/
def strings (read : PartReader) : Parser Expr :=
  remembered .strings (do
    let parts := (← many1 string).map stringParts
    match checkStrings read none parts with
    | .ok _ => return stringsExpr parts
    | .error failed => throwThe Failure failed)

def atom (read : PartReader) : Parser Expr :=
  firstOf [do return .name (← name),
    do let _ ← keyword "True"; return .constant .true,
    do let _ ← keyword "False"; return .constant .false,
    do let _ ← keyword "None"; return .constant .none,
    do let _ ← ahead string; strings read,
    numberExpr,
    do let _ ← ahead (symbol "("); firstOf [r.tuple, r.group, r.generator],
    do
      let _ ← ahead (symbol "\x7b")
      firstOf [r.dict, r.set, r.dictComprehension, r.setComprehension],
    do let _ ← symbol "..."; return .constant .ellipsis]

def callArguments : Parser Expr := do
  let _ ← symbol "("
  let given ← maybe r.arguments
  let _ ← symbol ")"
  return given.getD (.arguments [] [])

def called (e given : Expr) : Expr :=
  match given with
  | .arguments positional keywords => .call e positional.length keywords.length
  | _ => .call e 1 0

/-- What may follow an expression directly: a point and a name, or a call. -/
def trailer : Parser (Expr → Expr) :=
  firstOf [do
      let _ ← symbol "."
      let _ ← name
      return fun _ => .member,
    do
      let given ← r.generator
      return fun e => called e given,
    do
      let given ← r.callArguments
      return fun e => called e given]

/-- An atom with what follows it. -/
def primary (read : PartReader) : Parser Expr :=
  remembered .primary (do
    let first ← r.atom read
    let trailers ← many r.trailer
    return trailers.foldl (fun e follow => follow e) first)

def awaitPrimary (read : PartReader) : Parser Expr :=
  remembered .awaitPrimary (firstOf [do
      let _ ← keyword "await"
      let _ ← r.primary read
      return .await,
    r.primary read])

def power (read : PartReader) : Parser Expr :=
  firstOf [do
      let base ← r.awaitPrimary read
      let _ ← symbol "**"
      return .binary "**" base (← r.factor),
    r.awaitPrimary read]

/-- A power with signs before it. -/
def signed (read : PartReader) : Parser Expr :=
  remembered .factor (firstOf [do
      let sign ← oneOf ["+", "-", "~"]
      return .unary sign (← r.factor),
    r.power read])

/-- Operands with operators between them, from the operators that bind most to those that bind
least. -/
def operators (read : PartReader) : Parser Expr :=
  let term := remembered .term (leftAssociative ["*", "/", "//", "%", "@"] (r.signed read))
  let sum := remembered .sum (leftAssociative ["+", "-"] term)
  let shift := remembered .shift (leftAssociative ["<<", ">>"] sum)
  let bitwiseAnd := remembered .bitwiseAnd (leftAssociative ["&"] shift)
  let bitwiseXor := remembered .bitwiseXor (leftAssociative ["^"] bitwiseAnd)
  remembered .bitwiseOr (leftAssociative ["|"] bitwiseXor)

def compareOperator : Parser String :=
  firstOf [oneOf ["==", "!=", "<=", "<", ">=", ">"],
    do let _ ← keyword "not"; let _ ← keyword "in"; return "not in",
    do let _ ← keyword "in"; return "in",
    do let _ ← keyword "is"; let _ ← keyword "not"; return "is not",
    do let _ ← keyword "is"; return "is"]

def comparison (read : PartReader) : Parser Expr := do
  let left ← r.operators read
  let others ← many (do
    let operator ← compareOperator
    let _ ← r.operators read
    return operator)
  match others with
  | [] => return left
  | operator :: _ => return .comparison operator left

/-- A comparison that may be negated. -/
def negated (read : PartReader) : Parser Expr :=
  remembered .inversion (firstOf [do
      let _ ← keyword "not"
      return .unary "not" (← r.inversion),
    r.comparison read])

def joined (word : String) (operand : Parser Expr) : Parser Expr := do
  let first ← operand
  let others ← many (do let _ ← keyword word; operand)
  return if others.isEmpty then first else .boolean

def conditions (read : PartReader) : Parser Expr :=
  remembered .disjunction
    (joined "or" (remembered .conjunction (joined "and" (r.negated read))))

def default : Parser Unit :=
  firstOf [do
      let _ ← symbol "="
      let _ ← r.expression,
    onlyForFaults (do
      let _ ← symbol "="
      let _ ← ahead (oneOf [")", ","])
      fail .missingDefault)]

/-- A parser, and then a comma or the colon after parameters. -/
def endParameter (p : Parser Unit) : Parser Unit :=
  firstOf [do p; let _ ← symbol ",", do p; let _ ← ahead (symbol ":")]

def parameter : Parser Unit := do
  let _ ← name

/-- A parameter without a default. -/
def plainParameter : Parser Unit :=
  endParameter parameter

def defaultParameter : Parser Unit :=
  endParameter (do parameter; r.default)

/-- A parameter that may have a default. -/
def anyParameter : Parser Unit :=
  endParameter (do parameter; let _ ← maybe r.default)

/-- Parameters without defaults up to a slash. -/
def slashPlain : Parser Unit :=
  endParameter (do let _ ← many1 plainParameter; let _ ← symbol "/")

def slashDefault : Parser Unit :=
  endParameter (do
    let _ ← many plainParameter
    let _ ← many1 r.defaultParameter
    let _ ← symbol "/")

/-- The faults of a parameter for all further keywords. -/
def invalidSpread : Parser Unit :=
  firstOf [do
      let _ ← symbol "**"
      parameter
      let _ ← symbol "="
      fail .spreadDefault,
    do
      let _ ← symbol "**"
      parameter
      let _ ← symbol ","
      parameter
      fail .afterSpread,
    do
      let _ ← symbol "**"
      parameter
      let _ ← symbol ","
      let _ ← oneOf ["*", "**", "/"]
      fail .afterSpread]

/-- A parameter for all further keywords. -/
def spreadParameter : Parser Unit :=
  firstOf [onlyForFaults invalidSpread,
    do
      let _ ← symbol "**"
      plainParameter]

/-- The faults of a star among parameters. -/
def invalidStar : Parser Unit :=
  firstOf [do
      let _ ← symbol "*"
      firstOf [do let _ ← symbol ":",
        do
          let _ ← symbol ","
          let _ ← oneOf [":", "**"]]
      fail .bareStar,
    do
      let _ ← symbol "*"
      parameter
      let _ ← symbol "="
      fail .starDefault,
    do
      let _ ← symbol "*"
      firstOf [plainParameter, do let _ ← symbol ","]
      let _ ← many r.anyParameter
      let _ ← symbol "*"
      firstOf [plainParameter, do let _ ← symbol ","]
      fail .secondStar]

def starParameters : Parser Unit :=
  firstOf [onlyForFaults r.invalidStar,
    do
      let _ ← symbol "*"
      plainParameter
      let _ ← many r.anyParameter
      let _ ← maybe spreadParameter,
    do
      let _ ← symbol "*"
      let _ ← symbol ","
      let _ ← many1 r.anyParameter
      let _ ← maybe spreadParameter,
    spreadParameter]

def slashParameters : Parser Unit :=
  firstOf [slashPlain, r.slashDefault]

def invalidParameters : Parser Unit :=
  firstOf [do
      let _ ← many plainParameter
      firstOf [r.slashDefault, do let _ ← many1 r.defaultParameter]
      plainParameter
      fail .plainAfterDefault,
    do
      let _ ← many plainParameter
      let _ ← symbol "("
      let _ ← separated (symbol ",") parameter
      let _ ← maybe (symbol ",")
      let _ ← symbol ")"
      fail .parametersInParentheses,
    do
      let _ ← symbol "/"
      let _ ← symbol ","
      fail .nothingBeforeSlash,
    do
      r.slashParameters
      let _ ← many r.anyParameter
      let _ ← symbol "/"
      fail .secondSlash,
    do
      let _ ← maybe r.slashParameters
      let _ ← many r.anyParameter
      let _ ← symbol "*"
      firstOf [do let _ ← symbol ",", plainParameter]
      let _ ← many r.anyParameter
      let _ ← symbol "/"
      fail .slashAfterStar,
    do
      let _ ← many1 r.anyParameter
      let _ ← symbol "/"
      let _ ← symbol "*"
      fail .slashThenStar]

def parameters : Parser Unit :=
  firstOf [onlyForFaults r.invalidParameters,
    do
      slashPlain
      let _ ← many plainParameter
      let _ ← many r.defaultParameter
      let _ ← maybe r.starParameters,
    do
      r.slashDefault
      let _ ← many r.defaultParameter
      let _ ← maybe r.starParameters,
    do
      let _ ← many1 plainParameter
      let _ ← many r.defaultParameter
      let _ ← maybe r.starParameters,
    do
      let _ ← many1 r.defaultParameter
      let _ ← maybe r.starParameters,
    r.starParameters]

def lambda : Parser Expr := do
  let _ ← keyword "lambda"
  let _ ← maybe r.parameters
  let _ ← symbol ":"
  let _ ← r.expression
  return .lambda

/-- A choice between two expressions by a condition. -/
def choice (read : PartReader) : Parser Expr := do
  let _ ← r.conditions read
  let _ ← keyword "if"
  let _ ← r.conditions read
  let _ ← keyword "else"
  let _ ← r.expression
  return .conditional

/-- An expression, without a look for its faults. -/
def plainExpression (read : PartReader) : Parser Expr :=
  withoutFaults (firstOf [r.choice read, r.conditions read, r.lambda])

/-- The words that are names in most places. -/
def softKeywords : List String := ["_", "case", "match"]

/-- Two tokens that look like a string with a wrong mark, or a word that is a name only in most
places. -/
def unlikelyStart : Parser Unit :=
  firstOf [do let _ ← name; let _ ← string,
    do
      let word ← name
      if softKeywords.contains word then return () else failure]

/-- The number of brackets that are open after the last token. -/
def levelBefore : Parser Nat := do
  let r ← getThe Reading
  return (r.tokens[r.place - 1]?.map Token.level).getD 0

/-- The faults of an expression: another one follows without a comma, or an alternative is
missing. -/
def invalidExpression (read : PartReader) : Parser Expr :=
  firstOf [do
      notAhead unlikelyStart
      let e ← r.conditions read
      let _ ← r.plainExpression read
      if e.isOldStatement || (← levelBefore) = 0 then failure else fail .missingComma,
    do
      let _ ← r.conditions read
      let _ ← keyword "if"
      let _ ← r.conditions read
      notAhead (firstOf [keyword "else", symbol ":"])
      fail .missingElse]

/-- The fault of a statement of old without parentheses. -/
def invalidStatement : Parser Expr := do
  let word ← name
  notAhead (symbol "(")
  let _ ← r.starExpressions
  if (Expr.name word).isOldStatement then fail (.missingParentheses word) else failure

def anyExpression (read : PartReader) : Parser Expr :=
  remembered .expression (firstOf [onlyForFaults (r.invalidExpression read),
    onlyForFaults r.invalidStatement,
    r.choice read,
    r.conditions read,
    r.lambda])

def starExpression (read : PartReader) : Parser Expr :=
  remembered .starExpression (firstOf [do
      let _ ← symbol "*"
      return .starred (← r.operators read),
    r.anyExpression read])

/-- Expressions with commas between them, which are a tuple. -/
def commaSeparated (item : Parser Expr) : Parser Expr :=
  firstOf [do
      let first ← item
      let others ← many1 (do let _ ← symbol ","; item)
      let _ ← maybe (symbol ",")
      return .tuple (first :: others),
    do
      let first ← item
      let _ ← symbol ","
      return .tuple [first],
    item]

/-- The faults of an assignment in brackets. -/
def invalidNamed (read : PartReader) : Parser Expr :=
  remembered .invalidNamed (firstOf [do
      let e ← r.anyExpression read
      let _ ← symbol ":="
      let _ ← r.expression
      fail (.namedAssignment e.kind),
    do
      let _ ← name
      let _ ← symbol "="
      let _ ← r.bitwiseOr
      notAhead (oneOf ["=", ":="])
      fail .assignment,
    do
      notAhead (firstOf [do let _ ← r.tuple,
        do let _ ← r.generator,
        do let _ ← firstOf [keyword "True", keyword "None", keyword "False"]])
      let e ← r.operators read
      let _ ← symbol "="
      let _ ← r.bitwiseOr
      notAhead (oneOf ["=", ":="])
      fail (.assignmentTo e.kind)])

/-- An expression that may be an assignment. -/
def anyNamed (read : PartReader) : Parser Expr :=
  firstOf [r.assignmentExpression,
    onlyForFaults (r.invalidNamed read),
    unassigned (r.anyExpression read)]

/-- An expression that may be an assignment or have a star. -/
def starNamed (read : PartReader) : Parser Expr :=
  firstOf [do
      let _ ← symbol "*"
      return .starred (← r.operators read),
    r.anyNamed read]

/-- An argument: a keyword, which may spread others, or a positional one. -/
inductive Argument where
  | positional (e : Expr)
  | keyword (name : Option String)

/-- Arguments as an expression without a function. -/
def collected (arguments : List Argument) : Expr :=
  .arguments
    (arguments.filterMap fun a =>
      match a with
      | .positional e => some e
      | .keyword _ => none)
    (arguments.filterMap fun a =>
      match a with
      | .positional _ => none
      | .keyword name => some name)

def invalidKeyword (read : PartReader) : Parser Argument :=
  firstOf [do
      let word ← firstOf [do let _ ← keyword "True"; return "True",
        do let _ ← keyword "False"; return "False",
        do let _ ← keyword "None"; return "None"]
      let _ ← symbol "="
      fail (.keywordTarget word),
    do
      let _ ← name
      let _ ← symbol "="
      let _ ← r.expression
      r.forIfClauses
      fail .assignment,
    do
      notAhead (do let _ ← name; symbol "=")
      let _ ← r.anyExpression read
      let _ ← symbol "="
      fail .keywordExpression]

def keywordArgument : Parser Argument := do
  let word ← name
  let _ ← symbol "="
  let _ ← r.expression
  return .keyword (some word)

def keywordOrStarred (read : PartReader) : Parser Argument :=
  firstOf [onlyForFaults (r.invalidKeyword read),
    r.keywordArgument,
    do return .positional (← r.starredExpression)]

def keywordOrSpread (read : PartReader) : Parser Argument :=
  firstOf [onlyForFaults (r.invalidKeyword read),
    r.keywordArgument,
    do
      let _ ← symbol "**"
      let _ ← r.expression
      return .keyword none]

def keywordArguments (read : PartReader) : Parser (List Argument) :=
  firstOf [do
      let first ← separated (symbol ",") (r.keywordOrStarred read)
      let _ ← symbol ","
      return first ++ (← separated (symbol ",") (r.keywordOrSpread read)),
    separated (symbol ",") (r.keywordOrStarred read),
    separated (symbol ",") (r.keywordOrSpread read)]

def positionalArgument (read : PartReader) : Parser Expr :=
  firstOf [r.starredExpression,
    do
      let e ← firstOf [r.assignmentExpression, unassigned (r.anyExpression read)]
      notAhead (symbol "=")
      return e]

/-- Arguments, without a look for their faults. -/
def plainArguments (read : PartReader) : Parser Expr :=
  firstOf [do
      let positional ← separated (symbol ",") (r.positionalArgument read)
      let others ← maybe (do let _ ← symbol ","; r.keywordArguments read)
      return collected (positional.map Argument.positional ++ others.getD []),
    do return collected (← r.keywordArguments read)]

/-- What is wrong with a positional argument after some arguments. -/
def misplaced : Expr → SyntaxFault
  | .arguments _ keywords =>
    if keywords.any Option.isNone then .positionalAfterSpread else .positionalAfterKeyword
  | _ => .positionalAfterKeyword

def invalidArguments (read : PartReader) : Parser Expr :=
  firstOf [do
      firstOf [do
          let _ ← separated (symbol ",") (r.positionalArgument read)
          let _ ← symbol ","
          let _ ← r.keywordArguments read,
        do let _ ← r.keywordArguments read]
      let _ ← symbol ","
      let _ ← separated (symbol ",") (do
        let _ ← r.starredExpression
        notAhead (symbol "="))
      fail .starAfterSpread,
    do
      let _ ← r.anyExpression read
      r.forIfClauses
      let _ ← symbol ","
      let _ ← maybe (firstOf [do let _ ← r.plainArguments read,
        do
          let _ ← r.anyExpression read
          r.forIfClauses])
      fail .openGenerator,
    do
      let _ ← name
      let _ ← symbol "="
      let _ ← r.expression
      r.forIfClauses
      fail .assignment,
    do
      let given ← r.plainArguments read
      r.forIfClauses
      match given with
      | .arguments (_ :: _ :: _) _ => fail .openGenerator
      | _ => failure,
    do
      let _ ← r.plainArguments read
      let _ ← symbol ","
      let _ ← r.anyExpression read
      r.forIfClauses
      fail .openGenerator,
    do
      let given ← r.plainArguments read
      let _ ← symbol ","
      let _ ← r.plainArguments read
      fail (misplaced given)]

/-- Arguments up to the closing parenthesis. -/
def anyArguments (read : PartReader) : Parser Expr :=
  remembered .arguments (firstOf [do
      let given ← r.plainArguments read
      let _ ← maybe (symbol ",")
      let _ ← ahead (symbol ")")
      return given,
    onlyForFaults (r.invalidArguments read)])

def targetFollows : Parser String :=
  ahead (oneOf ["(", "["  , "."])

def targetTrailer : Parser (Expr → Expr) := do
  let follow ← r.trailer
  let _ ← targetFollows
  return follow

def targetPrimary (read : PartReader) : Parser Expr :=
  remembered .targetPrimary (do
    let first ← r.atom read
    let _ ← targetFollows
    let trailers ← many r.targetTrailer
    return trailers.foldl (fun e follow => follow e) first)

def targetTuple : Parser (List Expr) :=
  firstOf [do
      let first ← r.starTarget
      let others ← many1 (do let _ ← symbol ","; r.starTarget)
      let _ ← maybe (symbol ",")
      return first :: others,
    do
      let first ← r.starTarget
      let _ ← symbol ","
      return [first]]

/-- A target without a star. -/
def anyTargetAtom (read : PartReader) : Parser Expr :=
  remembered .targetAtom (firstOf [do
      let _ ← r.targetPrimary read
      let _ ← symbol "."
      let _ ← name
      notAhead targetFollows
      return .member,
    do return .name (← name),
    do
      let _ ← symbol "("
      let target ← r.targetAtom
      let _ ← symbol ")"
      return target,
    do
      let _ ← symbol "("
      let targets ← maybe r.targetTuple
      let _ ← symbol ")"
      return .tuple (targets.getD [])])

def anyTarget (read : PartReader) : Parser Expr :=
  remembered .starTarget (firstOf [do
      let _ ← symbol "*"
      notAhead (symbol "*")
      return .starred (← r.starTarget),
    r.anyTargetAtom read])

def deeper (read : PartReader) : Rules where
  expression := r.anyExpression read
  disjunction := r.conditions read
  inversion := r.negated read
  bitwiseOr := r.operators read
  factor := r.signed read
  namedExpression := r.anyNamed read
  starNamedExpression := r.starNamed read
  starExpressions := commaSeparated (r.starExpression read)
  arguments := r.anyArguments read
  starTarget := r.anyTarget read
  targetAtom := r.anyTargetAtom read

end Rules

/-- The rules of expressions that are nested up to a depth. -/
def rules (read : PartReader) : Nat → Rules
  | 0 => Rules.flat
  | depth + 1 => (rules read depth).deeper read

/-- An expression that stands alone, up to the end of the text. -/
def wholeExpression (r : Rules) : Parser Expr := do
  let e ← Rules.commaSeparated r.expression
  let _ ← many (satisfy fun t => t.lexeme = .newline)
  let _ ← satisfy fun t => t.lexeme = .finish
  return e

end SymbolReference.Expression

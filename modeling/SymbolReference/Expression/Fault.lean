import SymbolReference.Text.Quoted

namespace SymbolReference.Expression

/-- Why an expression cannot be read: faults of characters and brackets, of strings, of texts with
parts to fill in, of the order of tokens, of calls, and of parameters. -/
inductive SyntaxFault where
  | unclosed (bracket : Char)
  | unmatched (bracket : Char)
  | crossed (closing opening : Char) (line : Option Nat)
  | tooNested
  | strangeChar (c : Char)
  | hiddenChar (c : Char)
  | openString (line : Nat)
  | openTripleString (line : Nat)
  | badNumber (kind : String)
  | badDigit (digit : Char) (kind : String)
  | leadingZeros
  | tooManyDigits (count : Nat)
  | lineContinuation
  | endOfText
  | unexpectedIndent
  | strangeByte
  | mixedStrings
  | textEscape (first last : Nat) (reason : String)
  | byteEscape (position : Nat)
  | partBackslash
  | partComment
  | partUnmatched (bracket : Char)
  | partCrossed (closing opening : Char)
  | partTooNested
  | partOpenString
  | partEmpty
  | partMissing (before : Char)
  | partConversion
  | partBrace
  | partsTooDeep
  | loneBrace
  | inPart (fault : SyntaxFault)
  | order
  | missingComma
  | missingElse
  | missingParentheses (function : String)
  | assignment
  | assignmentTo (place : String)
  | namedAssignment (place : String)
  | target (place : String)
  | keywordTarget (word : String)
  | keywordExpression
  | starredGroup
  | doubleStarredGroup
  | starAlone
  | starredComprehension
  | comprehensionTarget
  | spreadComprehension
  | missingColon
  | missingValue
  | starredValue
  | openGenerator
  | starAfterSpread
  | positionalAfterSpread
  | positionalAfterKeyword
  | missingDefault
  | plainAfterDefault
  | parametersInParentheses
  | nothingBeforeSlash
  | secondSlash
  | slashAfterStar
  | slashThenStar
  | bareStar
  | starDefault
  | secondStar
  | spreadDefault
  | afterSpread
deriving Repr, DecidableEq

/-- The number of a character in hexadecimal digits, at least four. -/
def codePoint (c : Char) : String :=
  let digits := (Nat.toDigits 16 c.toNat).map Char.toUpper
  String.ofList (List.replicate (4 - digits.length) '0' ++ digits)

/-- The places of some bytes, as messages name them. -/
def placesText (first last : Nat) : String :=
  if first = last then "byte 0x5c in position " ++ toString first
  else "bytes in position " ++ toString first ++ "-" ++ toString last

/-- The message about a wrong expression. -/
def SyntaxFault.message : SyntaxFault → String
  | unclosed bracket => "'" ++ bracket.toString ++ "' was never closed"
  | unmatched bracket => "unmatched '" ++ bracket.toString ++ "'"
  | crossed closing opening line =>
    "closing parenthesis '" ++ closing.toString ++ "' does not match opening parenthesis '" ++
      opening.toString ++ "'" ++ (line.elim "" fun n => " on line " ++ toString n)
  | tooNested => "too many nested parentheses"
  | strangeChar c => "invalid character '" ++ c.toString ++ "' (U+" ++ codePoint c ++ ")"
  | hiddenChar c => "invalid non-printable character U+" ++ codePoint c
  | openString line => "unterminated string literal (detected at line " ++ toString line ++ ")"
  | openTripleString line =>
    "unterminated triple-quoted string literal (detected at line " ++ toString line ++ ")"
  | badNumber kind => "invalid " ++ kind ++ " literal"
  | badDigit digit kind => "invalid digit '" ++ digit.toString ++ "' in " ++ kind ++ " literal"
  | leadingZeros =>
    "leading zeros in decimal integer literals are not permitted; use an 0o prefix for octal " ++
      "integers"
  | tooManyDigits count =>
    "Exceeds the limit (4300 digits) for integer string conversion: value has " ++
      toString count ++ " digits; use sys.set_int_max_str_digits() to increase the limit - " ++
      "Consider hexadecimal for huge integer literals to avoid decimal conversion limits."
  | lineContinuation => "unexpected character after line continuation character"
  | endOfText => "unexpected EOF while parsing"
  | unexpectedIndent => "unexpected indent"
  | strangeByte => "bytes can only contain ASCII literal characters"
  | mixedStrings => "cannot mix bytes and nonbytes literals"
  | textEscape first last reason =>
    "(unicode error) 'unicodeescape' codec can't decode " ++ placesText first last ++ ": " ++ reason
  | byteEscape position => "(value error) invalid \\x escape at position " ++ toString position
  | partBackslash => "f-string expression part cannot include a backslash"
  | partComment => "f-string expression part cannot include '#'"
  | partUnmatched bracket => "f-string: unmatched '" ++ bracket.toString ++ "'"
  | partCrossed closing opening =>
    "f-string: closing parenthesis '" ++ closing.toString ++
      "' does not match opening parenthesis '" ++ opening.toString ++ "'"
  | partTooNested => "f-string: too many nested parenthesis"
  | partOpenString => "f-string: unterminated string"
  | partEmpty => "f-string: empty expression not allowed"
  | partMissing before => "f-string: expression required before '" ++ before.toString ++ "'"
  | partConversion => "f-string: invalid conversion character: expected 's', 'r', or 'a'"
  | partBrace => "f-string: expecting '\x7d'"
  | partsTooDeep => "f-string: expressions nested too deeply"
  | loneBrace => "f-string: single '\x7d' is not allowed"
  | inPart fault => "f-string: " ++ fault.message
  | order => "invalid syntax"
  | missingComma => "invalid syntax. Perhaps you forgot a comma?"
  | missingElse => "expected 'else' after 'if' expression"
  | missingParentheses function =>
    "Missing parentheses in call to '" ++ function ++ "'. Did you mean " ++ function ++ "(...)?"
  | assignment => "invalid syntax. Maybe you meant '==' or ':=' instead of '='?"
  | assignmentTo place =>
    "cannot assign to " ++ place ++ " here. Maybe you meant '==' instead of '='?"
  | namedAssignment place => "cannot use assignment expressions with " ++ place
  | target place => "cannot assign to " ++ place
  | keywordTarget word => "cannot assign to " ++ word
  | keywordExpression => "expression cannot contain assignment, perhaps you meant \"==\"?"
  | starredGroup => "cannot use starred expression here"
  | doubleStarredGroup => "cannot use double starred expression here"
  | starAlone => "Invalid star expression"
  | starredComprehension => "iterable unpacking cannot be used in comprehension"
  | comprehensionTarget => "did you forget parentheses around the comprehension target?"
  | spreadComprehension => "dict unpacking cannot be used in dict comprehension"
  | missingColon => "':' expected after dictionary key"
  | missingValue => "expression expected after dictionary key and ':'"
  | starredValue => "cannot use a starred expression in a dictionary value"
  | openGenerator => "Generator expression must be parenthesized"
  | starAfterSpread => "iterable argument unpacking follows keyword argument unpacking"
  | positionalAfterSpread => "positional argument follows keyword argument unpacking"
  | positionalAfterKeyword => "positional argument follows keyword argument"
  | missingDefault => "expected default value expression"
  | plainAfterDefault => "non-default argument follows default argument"
  | parametersInParentheses => "Lambda expression parameters cannot be parenthesized"
  | nothingBeforeSlash => "at least one argument must precede /"
  | secondSlash => "/ may appear only once"
  | slashAfterStar => "/ must be ahead of *"
  | slashThenStar => "expected comma between / and *"
  | bareStar => "named arguments must follow bare *"
  | starDefault => "var-positional argument cannot have default value"
  | secondStar => "* argument may appear only once"
  | spreadDefault => "var-keyword argument cannot have default value"
  | afterSpread => "arguments cannot follow var-keyword argument"

end SymbolReference.Expression

import SymbolReference.Text.Digits
import SymbolReference.Text.Pattern

namespace SymbolReference.Terminal

open Text (Extent Pattern)

namespace Highlight

open Text.Pattern

def word : Pattern := char Text.isWordChar

def digit : Pattern := char Char.isDigit

def scriptDigit : Pattern := char fun c => (Text.decimalDigit? c).isSome

def hexDigit : Pattern := char Text.isHexDigit

/-- A character of a word or of a text. -/
def wordOr (s : String) : Pattern :=
  char fun c => Text.isWordChar c || s.toList.contains c

/-- Any character of a line. -/
def lineChar : Pattern := char (· ≠ '\n')

/-- A tag from the first angle bracket to the last one. -/
def tag : Pattern :=
  sequence [noted (text "<"), noted (many (wordOr "-.:|")), noted (many (char fun _ => true)),
    noted (text ">")]

/-- An assignment: a name, an equals sign and a value. -/
def assignment : Pattern :=
  let quote := optional (text "\"")
  sequence [noted (someUpTo 50 word), text "=",
    optional (noted (sequence [quote, oneOrMore word, quote]))]

/-- A brace, a bracket or a parenthesis. -/
def brace : Pattern := noted (charOf "][\x7b\x7d()")

/-- An internet address of four numbers. -/
def shortAddress : Pattern :=
  let number := someUpTo 3 digit
  noted (sequence [number, text ".", number, text ".", number, text ".", number])

/-- An internet address of up to eight hexadecimal numbers. -/
def longAddress : Pattern :=
  let number := someUpTo 4 hexDigit
  noted (both (someUpTo 7 (sequence [number, text ":", optional (text ":")])) number)

/-- A hardware address: so many pairs of digits after the first one, or so many groups of four. -/
def hardwareAddress (pairs groups : Nat) : Pattern :=
  let pair := someUpTo 2 hexDigit
  let group := times 4 hexDigit
  noted (oneOf [both (times pairs (both pair (text "-"))) pair,
    both (times pairs (both pair (text ":"))) pair,
    both (times groups (both group (text "."))) group])

def identifier : Pattern :=
  let group := both (text "-") (times 4 hexDigit)
  noted (sequence [times 8 hexDigit, group, group, group, text "-", times 12 hexDigit])

/-- The name of something that is called. -/
def call : Pattern :=
  both (noted (few (wordOr "."))) (text "(")

def constant (name : String) : Pattern :=
  sequence [wordEdge true, noted (text name), wordEdge true]

/-- The digits of a number, with a point among them and an exponent. -/
def decimal (exponentDigits : Pattern) : Pattern :=
  sequence [oneOrMore digit, optional (text "."), many digit,
    optional (sequence [text "e", optional (charOf "-+"), exponentDigits])]

def fewDigits : Pattern := both scriptDigit (few scriptDigit)

/-- An imaginary number with or without a real one before it. -/
def complexNumber : Pattern :=
  noted (sequence [notAfter Text.isWordChar, optional (text "-"), decimal fewDigits,
    optional (both (charOf "-+") (decimal (oneOrMore scriptDigit))), text "j"])

def number : Pattern :=
  noted (either
    (sequence [notAfter Text.isWordChar, optional (text "-"), decimal fewDigits, wordEdge true])
    (both (text "0x") (many hexDigit)))

/-- A path: the folders and the file in the last one. -/
def path : Pattern :=
  let name := wordOr "-._+"
  both (noted (sequence [wordEdge false, many (both (text "/") (oneOrMore name)), text "/"]))
    (optional (noted (many name)))

/-- A string between two quotes, the second of which does not follow a backslash. -/
def quoted (quote : String) : Pattern :=
  sequence [optional (text "b"), text quote, few lineChar, notAfter (· = '\\'), text quote]

/-- A string between single or triple quotes. -/
def string : Pattern :=
  both (notAfter fun c => c = '\\' || Text.isWordChar c)
    (noted (oneOf (["'''", "'", "\"\"\"", "\""].map quoted)))

def link : Pattern :=
  let linkChar := char fun c => c.isAlphanum || "-$_+!`(),.?/;:&=%#~@".toList.contains c
  noted (sequence [oneOf (["file", "https", "http", "ws", "wss"].map text), text "://",
    many linkChar])

/-- What stands out on its own wherever the text before it ends. -/
def value : Pattern :=
  oneOf [shortAddress, longAddress, hardwareAddress 7 3, hardwareAddress 5 2, identifier, call,
    constant "True", constant "False", constant "None", noted (text "..."), complexNumber, number,
    path, string, link]

end Highlight

/-- The parts of a text that stand out. -/
def highlights (s : List Char) : List Extent :=
  [Highlight.tag, Highlight.assignment, Highlight.brace, Highlight.value].flatMap fun p => p.notedIn s

end SymbolReference.Terminal

import SymbolReference.Text.Lines

namespace SymbolReference.Text

/-- The text from its first character that is not white space. -/
def trimLeft (s : List Char) : List Char :=
  s.dropWhile isBlank

/-- The text up to its last character that is not white space. -/
def trimRight : List Char → List Char
  | [] => []
  | c :: rest =>
    match trimRight rest with
    | [] => if isBlank c then [] else [c]
    | kept => c :: kept

/-- The text without the white space at both ends. -/
def trim (s : List Char) : List Char :=
  trimRight (trimLeft s)

def words : List Char → List (List Char)
  | [] => []
  | c :: rest =>
    if isBlank c then words rest
    else
      match rest with
      | [] => [[c]]
      | d :: _ =>
        if isBlank d then [c] :: words rest
        else
          match words rest with
          | [] => [[c]]
          | word :: others => (c :: word) :: others

/-- The words of a text with one space between any two neighbours. -/
def collapse (s : List Char) : List Char :=
  joined [' '] (words s)

/-- Whether a text starts with the given characters. -/
def startsWith (s start : List Char) : Bool :=
  start.isPrefixOf s

/-- Whether a text ends with the given characters. -/
def endsWith (s ending : List Char) : Bool :=
  ending.isSuffixOf s

end SymbolReference.Text

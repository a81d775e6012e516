import SymbolReference.Text.Digits
import SymbolReference.Text.Identifier
import SymbolReference.Text.Words

namespace SymbolReference.Text

/-- The white space between words that are filled into lines. -/
def isSpacing (c : Char) : Bool :=
  c = ' ' || c = '\t' || c = '\n' || c = '\x0b' || c = '\x0c' || c = '\r'

/-- A text with one space in place of any white space between words. -/
def singleSpaced : List Char → List Char
  | [] => []
  | c :: rest =>
    if !isSpacing c then c :: singleSpaced rest
    else if rest.head?.any isSpacing then singleSpaced rest
    else ' ' :: singleSpaced rest

/-- Whether a character can stand before a dash between words. -/
def precedesDash (c : Char) : Bool :=
  isWordChar c || "!\"'&.,?".toList.contains c

/-- Whether a character is a letter of a hyphenated word. -/
def isHyphenated (c : Char) : Bool :=
  isWordChar c && (decimalDigit? c).isNone

/-- The length of the dash at the front of a text: two or more hyphens before a word. -/
def dash? (s : List Char) : Option Nat :=
  let hyphens := (s.takeWhile (· = '-')).length
  if 2 ≤ hyphens && (s.drop hyphens).head?.any isWordChar then some hyphens else none

/-- Whether a hyphen after some characters, last one first, and before a text divides a word. -/
def dividesWord (before after : List Char) : Bool :=
  let left :=
    match before with
    | a :: b :: others =>
      isHyphenated a && (isHyphenated b || (b = '-' && others.head?.any isHyphenated))
    | _ => false
  let right :=
    match after with
    | a :: '-' :: b :: _ => isHyphenated a && isHyphenated b
    | a :: b :: _ => isHyphenated a && isHyphenated b
    | _ => false
  left && right

/-- The length of the rest of a word after some characters of it. `before` are the characters before
that rest, last one first. -/
def wordRest : List Char → List Char → Nat
  | _, [] => 0
  | before, c :: rest =>
    if c = '-' && dividesWord before rest then 1
    else if isSpacing c || (before.head?.any precedesDash && (dash? (c :: rest)).isSome) then 0
    else 1 + wordRest (c :: before) rest

/-- The length of the chunk at the front of a text after some characters, last one first. -/
def chunkLength (before : List Char) : List Char → Nat
  | [] => 0
  | c :: rest =>
    if isSpacing c then ((c :: rest).takeWhile isSpacing).length
    else
      match if before.head?.any precedesDash then dash? (c :: rest) else none with
      | some hyphens => hyphens
      | none => 1 + wordRest (c :: before) rest

/-- The chunks of a text after some characters, last one first, by at most `fuel` chunks. -/
def chunksFrom : Nat → List Char → List Char → List (List Char)
  | 0, _, _ => []
  | fuel + 1, before, s =>
    if s.isEmpty then []
    else
      let chunk := s.take (chunkLength before s)
      chunk :: chunksFrom fuel (chunk.reverse ++ before) (s.drop chunk.length)

def chunks (s : List Char) : List (List Char) :=
  chunksFrom s.length [] s

/-- How much of a chunk goes on a line with some room: up to the last hyphen that something else
stands before, or all that there is room for. -/
def brokenLength (room : Nat) (chunk : List Char) : Nat :=
  let start := chunk.take room
  let afterHyphen := (start.reverse.takeWhile (· ≠ '-')).length
  let cut := start.length - afterHyphen
  if (start.take (cut - 1)).any (· ≠ '-') then cut else room

/-- Fill lines of a width with chunks, in at most `fuel` steps. `line` is the line that is being
filled, last chunk first. -/
def fillChunks (width : Nat) : Nat → List (List Char) → List (List Char) → List (List Char)
  | 0, _, _ => []
  | fuel + 1, line, todo =>
    let length := line.flatten.length
    let finish := fun (line : List (List Char)) =>
      let line := if line.head?.any allBlank then line.tail else line
      if line.isEmpty then [] else [line.reverse.flatten]
    match todo with
    | [] => finish line
    | chunk :: others =>
      if length + chunk.length ≤ width then fillChunks width fuel (chunk :: line) others
      else
        let isLong := width < chunk.length
        let taken := if isLong then brokenLength (width - length) chunk else 0
        let line := if isLong then chunk.take taken :: line else line
        let rest := chunk.drop taken
        let todo := if allBlank rest then others else rest :: others
        finish line ++ fillChunks width fuel [] todo

def filled (width : Nat) (s : List Char) : List (List Char) :=
  fillChunks width (2 * s.length + 2) [] (chunks s)

end SymbolReference.Text

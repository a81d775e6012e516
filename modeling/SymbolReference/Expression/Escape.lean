import SymbolReference.Expression.Token
import SymbolReference.Text.Digits

namespace SymbolReference.Expression

/-- The value of a hexadecimal digit. -/
def hexValue (c : Char) : Nat :=
  if c.isDigit then c.toNat - '0'.toNat
  else if 'a' ≤ c then c.toNat - 'a'.toNat + 10
  else c.toNat - 'A'.toNat + 10

/-- A character by its number in eight hexadecimal digits. -/
def spelledChar (c : Char) : List Char :=
  let digits := Nat.toDigits 16 c.toNat
  '\\' :: 'U' :: (List.replicate (8 - digits.length) '0' ++ digits)

/-- The inside of a text with ASCII characters only: others are spelled by their numbers, and so is
a backslash before one of them or at the end. Places in messages are places in this form. -/
def spelled : List Char → List Char
  | [] => []
  | ['\\'] => "\\u005c".toList
  | '\\' :: c :: rest =>
    if c.toNat < 128 then '\\' :: c :: spelled rest
    else "\\u005c".toList ++ spelledChar c ++ spelled rest
  | c :: rest => if c.toNat < 128 then c :: spelled rest else spelledChar c ++ spelled rest

/-- The number of hexadecimal digits that an escape takes, and what is said when some are
missing. -/
def hexEscape? : Char → Option (Nat × String)
  | 'x' => some (2, "truncated \\xXX escape")
  | 'u' => some (4, "truncated \\uXXXX escape")
  | 'U' => some (8, "truncated \\UXXXXXXXX escape")
  | _ => none

/-- The largest number of a character. -/
def lastCodePoint : Nat := 0x10ffff

/-- The fault of the escape with a letter that stands at a place, given what follows the letter, and
the number of characters that the escape takes beyond its letter. No character has a name. -/
def escapeFault (place : Nat) (letter : Char) (rest : List Char) : Except SyntaxFault Nat :=
  match hexEscape? letter with
  | some (count, truncated) =>
    let digits := (rest.take count).takeWhile Text.isHexDigit
    let last := place + 1 + digits.length
    if digits.length < count then .error (.textEscape place last truncated)
    else if lastCodePoint < digits.foldl (fun n c => 16 * n + hexValue c) 0 then
      .error (.textEscape place last "illegal Unicode character")
    else .ok count
  | none =>
    if letter = 'N' then
      match rest with
      | '{' :: inner =>
        let name := inner.takeWhile (· ≠ '}')
        let last := place + 2 + name.length
        if name.length = inner.length then
          .error (.textEscape place last "malformed \\N character escape")
        else if name.isEmpty then .error (.textEscape place last "malformed \\N character escape")
        else .error (.textEscape place (last + 1) "unknown Unicode character name")
      | _ => .error (.textEscape place (place + 1) "malformed \\N character escape")
    else .ok 0

/-- The first fault of the escapes in a spelled text from a place on. -/
def escapeFaultFrom : Nat → Nat → List Char → Option SyntaxFault
  | 0, _, _ => none
  | fuel + 1, place, s =>
    match s with
    | [] => none
    | '\\' :: letter :: rest =>
      match escapeFault place letter rest with
      | .error fault => some fault
      | .ok taken => escapeFaultFrom fuel (place + 2 + taken) (rest.drop taken)
    | _ :: rest => escapeFaultFrom fuel (place + 1) rest

def textFault? (s : List Char) : Option SyntaxFault :=
  let written := spelled s
  escapeFaultFrom (written.length + 1) 0 written

/-- The first fault of the escapes in bytes from a place on. -/
def byteEscapeFault? : Nat → List Char → Option SyntaxFault
  | place, '\\' :: 'x' :: rest =>
    if (rest.take 2).length = 2 && (rest.take 2).all Text.isHexDigit then
      byteEscapeFault? (place + 2) rest
    else some (.byteEscape place)
  | place, '\\' :: _ :: rest => byteEscapeFault? (place + 2) rest
  | place, _ :: rest => byteEscapeFault? (place + 1) rest
  | _, [] => none

def bytesFault? (raw : Bool) (s : List Char) : Option SyntaxFault :=
  if s.any fun c => 127 < c.toNat then some .strangeByte
  else if raw then none
  else byteEscapeFault? 0 s

/-- A string as it is written: its marks and its inside. -/
structure StringParts where
  marks : Marks
  inside : List Char
deriving Repr, DecidableEq

def stringParts (written : List Char) : StringParts :=
  match stringMarks? {} written with
  | none => { marks := {}, inside := [] }
  | some (letters, marks) =>
    let quoted := written.drop letters.length
    let quotes := match quoted with
      | a :: b :: c :: _ :: _ :: _ :: _ => if a = b && b = c then 3 else 1
      | _ => 1
    { marks, inside := (quoted.drop quotes).take (quoted.length - 2 * quotes) }

end SymbolReference.Expression

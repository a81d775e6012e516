import SymbolReference.Encoding.Error
import SymbolReference.Text.Surrogate

namespace SymbolReference.Encoding

/-- The value of a hexadecimal digit. -/
def hexDigit? (b : Nat) : Option Nat :=
  if 48 ≤ b && b ≤ 57 then some (b - 48)
  else if 97 ≤ b && b ≤ 102 then some (b - 97 + 10)
  else if 65 ≤ b && b ≤ 70 then some (b - 65 + 10)
  else none

def octalDigit? (b : Nat) : Option Nat :=
  if 48 ≤ b && b ≤ 55 then some (b - 48) else none

/-- The number that digits write. -/
def digitsValue (base : Nat) (digits : List Nat) : Nat :=
  digits.foldl (fun n d => base * n + d) 0

/-- The leading digits of bytes, at most a number of them. -/
def leadingDigits (digit? : Nat → Option Nat) : Nat → List Nat → List Nat
  | 0, _ | _, [] => []
  | count + 1, b :: rest =>
    match digit? b with
    | some d => d :: leadingDigits digit? count rest
    | none => []

/-- What is wrong with an escape: the number of bytes after its letter that belong to it, and why. -/
structure EscapeError where
  taken : Nat
  reason : String
deriving Repr, DecidableEq

/-- An escape by a number of hexadecimal digits: its character and the number of bytes that it takes
after its letter. -/
def numberEscape (count : Nat) (truncated outside : String) (rest : List Nat) :
    Except EscapeError (List Char × Nat) :=
  let digits := leadingDigits hexDigit? count rest
  let code := digitsValue 16 digits
  if digits.length < count then .error { taken := digits.length, reason := truncated }
  else if 0x10FFFF < code then .error { taken := count, reason := outside }
  else .ok ([Text.charOfCode code], count)

def letterEscapes : List (Char × Nat) :=
  [('\\', 92), ('\'', 39), ('"', 34), ('b', 8), ('f', 12), ('t', 9), ('n', 10), ('r', 13),
    ('v', 11), ('a', 7)]

/-- An escape by the name of a character, from what follows its letter. No names are known. -/
def nameEscape (rest : List Nat) : Except EscapeError (List Char × Nat) :=
  let malformed := "malformed \\N character escape"
  match rest with
  | 123 :: inner =>
    let name := inner.takeWhile (· ≠ 125)
    if name.length = inner.length || name.isEmpty then
      .error { taken := 1 + name.length, reason := malformed }
    else .error { taken := 2 + name.length, reason := "unknown Unicode character name" }
  | _ => .error { taken := 0, reason := malformed }

/-- The characters of an escape, given the byte after the backslash and those that follow, and the
number of bytes that it takes after that byte. A byte that makes no escape is kept with its
backslash. -/
def escape (letter : Nat) (rest : List Nat) : Except EscapeError (List Char × Nat) :=
  let outside := "illegal Unicode character"
  match Char.ofNat letter with
  | '\n' => .ok ([], 0)
  | 'x' => numberEscape 2 "truncated \\xXX escape" outside rest
  | 'u' => numberEscape 4 "truncated \\uXXXX escape" outside rest
  | 'U' => numberEscape 8 "truncated \\UXXXXXXXX escape" outside rest
  | 'N' => nameEscape rest
  | c =>
    match letterEscapes.lookup c, octalDigit? letter with
    | some n, _ => .ok ([Char.ofNat n], 0)
    | none, some first =>
      let digits := leadingDigits octalDigit? 2 rest
      .ok ([Char.ofNat (digitsValue 8 (first :: digits))], digits.length)
    | none, none => .ok (['\\', c], 0)

def rawEscape (letter : Nat) (rest : List Nat) : Except EscapeError (List Char × Nat) :=
  let outside := "\\Uxxxxxxxx out of range"
  match Char.ofNat letter with
  | 'u' => numberEscape 4 "truncated \\uXXXX escape" outside rest
  | 'U' => numberEscape 8 "truncated \\UXXXXXXXX escape" outside rest
  | c => .ok (['\\', c], 0)

/-- The characters of bytes from a place on. -/
def readEscaped (raw : Bool) : Nat → List Nat → Except EncodingError (List Char)
  | _, [] => .ok []
  | place, [92] =>
    if raw then .ok ['\\']
    else .error (.unreadable "unicodeescape" place [92] "\\ at end of string")
  | place, 92 :: letter :: rest =>
    match if raw then rawEscape letter rest else escape letter rest with
    | .error e =>
      .error (.unreadable (if raw then "rawunicodeescape" else "unicodeescape") place
        ((92 :: letter :: rest).take (2 + e.taken)) e.reason)
    | .ok (chars, taken) => do
      return chars ++ (← readEscaped raw (place + 2 + taken) (rest.drop taken))
  | place, b :: rest => do return Char.ofNat b :: (← readEscaped raw (place + 1) rest)
termination_by _ bytes => bytes.length
decreasing_by
  all_goals
    simp only [List.length_drop, List.length_cons]
    omega

end SymbolReference.Encoding

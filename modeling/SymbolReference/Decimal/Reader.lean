import SymbolReference.Decimal.Layout
import SymbolReference.Text.Blank
import SymbolReference.Text.Digits
import SymbolReference.Text.Quoted

namespace SymbolReference.Decimal

/-- Why a text is not read as a number, or a number not written as a text. -/
inductive NumberError where
  | notWhole (base : Nat) (text : List Char)
  | notDecimal (text : List Char)
  | tooLong (digits : Nat)
  | unwritable
deriving Repr, DecidableEq

/-- The largest count of decimal digits that a whole number is read from or written with. -/
def digitLimit : Nat := 4300

/-- The message about a number. The text of a whole number is shown up to a fixed length. -/
def NumberError.message : NumberError → String
  | notWhole base text =>
    "invalid literal for int() with base " ++ String.ofList (natDigits base) ++ ": " ++
      String.ofList ((Text.quoted text).take 200)
  | notDecimal text => "could not convert string to float: " ++ String.ofList (Text.quoted text)
  | tooLong digits =>
    "Exceeds the limit (" ++ String.ofList (natDigits digitLimit) ++
      " digits) for integer string conversion: value has " ++ String.ofList (natDigits digits) ++
      " digits; use sys.set_int_max_str_digits() to increase the limit"
  | unwritable =>
    "Exceeds the limit (" ++ String.ofList (natDigits digitLimit) ++
      " digits) for integer string conversion; use sys.set_int_max_str_digits() to increase the limit"

/-- Whether a whole number has few enough digits to be written. -/
def isWritable (n : Int) : Bool :=
  n.natAbs < Nat.pow 10 digitLimit

/-- White space around a number. The information separators do not count. -/
def isPadding (c : Char) : Bool :=
  Text.isBlank c && !(28 ≤ c.toNat && c.toNat ≤ 31)

/-- The plain form of a character of a number: a digit of any script is its ASCII digit. -/
def plainDigit (c : Char) : Char :=
  match Text.decimalDigit? c with
  | some n => Char.ofNat (48 + n)
  | none => c

/-- A text without the padding at both ends, its digits in plain form. -/
def plainText (s : List Char) : List Char :=
  let s := s.dropWhile isPadding
  ((s.reverse.dropWhile isPadding).reverse).map plainDigit

def readSign : List Char → Bool × List Char
  | '-' :: rest => (true, rest)
  | '+' :: rest => (false, rest)
  | rest => (false, rest)

def ofDigits (digits : List Char) : Nat :=
  digits.foldl (fun n c => 10 * n + (c.toNat - 48)) 0

def digitIn? (base : Nat) (c : Char) : Option Nat :=
  let n :=
    if c.isDigit then some (c.toNat - 48)
    else if 'a' ≤ c && c ≤ 'z' then some (c.toNat - 87)
    else if 'A' ≤ c && c ≤ 'Z' then some (c.toNat - 55)
    else none
  n.filter (· < base)

/-- Whether every underscore of a text stands between two characters of a class, given the
character before the text. -/
def separates (p : Char → Bool) : Bool → List Char → Bool
  | _, [] => true
  | afterMember, '_' :: rest =>
    afterMember && (match rest with
      | [] => false
      | next :: _ => p next) && separates p false rest
  | _, c :: rest => separates p (p c) rest

def baseMark? : Nat → Option Char
  | 2 => some 'b'
  | 8 => some 'o'
  | 16 => some 'x'
  | _ => none

def afterBaseMark (base : Nat) (s : List Char) : List Char :=
  match s, baseMark? base with
  | '0' :: mark :: rest, some wanted =>
    if mark.toLower = wanted then
      match rest with
      | '_' :: digits => digits
      | digits => digits
    else s
  | s, _ => s

/-- Read a whole number in a base. In base ten the count of its digits is limited. -/
def readWhole (base : Nat) (text : List Char) : Except NumberError Int :=
  let (negative, rest) := readSign (plainText text)
  let body := afterBaseMark base rest
  let isDigit := fun c => (digitIn? base c).isSome
  let run := body.takeWhile fun c => isDigit c || c = '_'
  let digits := run.filter fun c => c ≠ '_'
  if digits.isEmpty || !separates isDigit false run then .error (.notWhole base text)
  else if (baseMark? base).isNone && digits.length > digitLimit then
    .error (.tooLong digits.length)
  else if run.length ≠ body.length then .error (.notWhole base text)
  else
    let size := digits.foldl (fun n c => base * n + (digitIn? base c).getD 0) 0
    .ok (if negative then -Int.ofNat size else Int.ofNat size)

def readExponent : List Char → Option Int
  | [] => some 0
  | c :: rest =>
    if c = 'e' || c = 'E' then
      let (negative, digits) := readSign rest
      if digits.isEmpty || !digits.all Char.isDigit then none
      else
        let n := Int.ofNat (ofDigits digits)
        some (if negative then -n else n)
    else none

/-- Scale a decimal number without its sign to the nearest floating-point number. -/
def scaleBy (mantissa : Nat) (exponent : Int) : Float :=
  if mantissa == 0 then 0.0
  else if exponent < -100000 then 0.0
  else if exponent > 100000 then 1.0 / 0.0
  else Float.ofScientific mantissa (exponent < 0) exponent.natAbs

/-- Read a decimal number without its sign: digits, optionally a point and further digits, and
optionally an exponent. At least one digit stands beside the point. -/
def readMagnitude (s : List Char) : Option Float :=
  let whole := s.takeWhile Char.isDigit
  let rest := s.dropWhile Char.isDigit
  let (fraction, tail) :=
    match rest with
    | '.' :: after => (after.takeWhile Char.isDigit, after.dropWhile Char.isDigit)
    | _ => ([], rest)
  if whole.isEmpty && fraction.isEmpty then none
  else
    (readExponent tail).map fun exponent =>
      scaleBy (ofDigits (whole ++ fraction)) (exponent - Int.ofNat fraction.length)

/-- Read a decimal number, an infinity or no number, each with an optional sign. The names of the
special values are read in any case. -/
def readDecimal (text : List Char) : Except NumberError Float :=
  let plain := plainText text
  let (negative, magnitude) := readSign (plain.filter fun c => c ≠ '_')
  let value? :=
    if !separates Char.isDigit false plain then none
    else
      match String.ofList (magnitude.map Char.toLower) with
      | "nan" => some (0.0 / 0.0)
      | "inf" | "infinity" => some (1.0 / 0.0)
      | _ => readMagnitude magnitude
  match value? with
  | some x => .ok (if negative then -x else x)
  | none => .error (.notDecimal text)

end SymbolReference.Decimal

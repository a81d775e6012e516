import SymbolReference.Value.Basic
import SymbolReference.Text.Lower
import SymbolReference.Text.Lines
import SymbolReference.Yaml.Error

namespace SymbolReference.Yaml

/-- The types of nodes that the reader knows. -/
inductive Tag where
  | null
  | bool
  | int
  | float
  | binary
  | timestamp
  | omap
  | pairs
  | set
  | str
  | seq
  | map
  | merge
  | value
  | other
deriving Repr, DecidableEq

/-- The known types have names in one common space. -/
def Tag.space : String := "tag:yaml.org,2002:"

/-- The type with a given full name. -/
def Tag.ofName (name : String) : Tag :=
  match [Tag.null, .bool, .int, .float, .binary, .timestamp, .omap, .pairs, .set, .str, .seq, .map,
      .merge, .value].zip ["null", "bool", "int", "float", "binary", "timestamp", "omap", "pairs",
      "set", "str", "seq", "map", "merge", "value"]
    |>.find? fun entry => Tag.space ++ entry.2 == name with
  | some entry => entry.1
  | none => .other

def isDigitOrUnderscore (c : Char) : Bool := c.isDigit || c = '_'

/-- A text after an optional sign. -/
def unsigned : List Char → List Char
  | '-' :: rest => rest
  | '+' :: rest => rest
  | rest => rest

/-- One group of a number in base sixty: one digit, or two of which the first is below six. -/
def isSexagesimalGroup : List Char → Bool
  | [a] => a.isDigit
  | [a, b] => '0' ≤ a && a ≤ '5' && b.isDigit
  | _ => false

/-- Whether an unsigned text is a whole number: binary, octal, decimal, hexadecimal or in base
sixty. -/
def isWholeNumber (s : List Char) : Bool :=
  match s with
  | [] => false
  | ['0'] => true
  | '0' :: 'b' :: digits => !digits.isEmpty && digits.all fun c => c = '0' || c = '1' || c = '_'
  | '0' :: 'x' :: digits =>
    !digits.isEmpty && digits.all fun c => c.isDigit || c = '_' || ('a' ≤ c && c ≤ 'f') ||
      ('A' ≤ c && c ≤ 'F')
  | '0' :: digits => digits.all fun c => ('0' ≤ c && c ≤ '7') || c = '_'
  | first :: _ =>
    first.isDigit &&
      match Text.fields ':' s with
      | [] => false
      | leading :: groups => leading.all isDigitOrUnderscore && groups.all isSexagesimalGroup

/-- Whether a text is the optional exponent of a decimal number. Its sign must be written. -/
def isExponent : List Char → Bool
  | [] => true
  | e :: sign :: digits =>
    (e = 'e' || e = 'E') && (sign = '-' || sign = '+') && !digits.isEmpty &&
      digits.all Char.isDigit
  | _ => false

/-- Whether a text is the part of a decimal number after its point. -/
def isFraction (s : List Char) : Bool :=
  isExponent (s.dropWhile isDigitOrUnderscore)

/-- Whether an unsigned text is a decimal number whose leading digits are written. -/
def isDecimalNumber (s : List Char) : Bool :=
  match s with
  | [] => false
  | first :: _ =>
    first.isDigit &&
      let whole := s.takeWhile fun c => c ≠ '.'
      match s.dropWhile fun c => c ≠ '.' with
      | '.' :: fraction =>
        match Text.fields ':' whole with
        | [] => false
        | [digits] => digits.all isDigitOrUnderscore && isFraction fraction
        | leading :: groups =>
          leading.all isDigitOrUnderscore && groups.all isSexagesimalGroup &&
            fraction.all isDigitOrUnderscore
      | _ => false

/-- Whether a text is a decimal number, an infinity or no number. -/
def isDecimal (s : List Char) : Bool :=
  isDecimalNumber (unsigned s) ||
    (match s with
      | '.' :: d :: rest => d.isDigit && isFraction rest
      | _ => false) ||
    [".inf", ".Inf", ".INF"].contains (String.ofList (unsigned s)) ||
    [".nan", ".NaN", ".NAN"].contains (String.ofList s)

/-- The fields of a timestamp as written. -/
structure TimestampText where
  year : List Char
  month : List Char
  day : List Char
  /-- Hour, minute, second, the digits after the point of the second, and the zone. -/
  time : Option (List Char × List Char × List Char × List Char × List Char) := none

/-- Whether a text has one or two digits. -/
def isShortNumber (s : List Char) : Bool :=
  (s.length == 1 || s.length == 2) && s.all Char.isDigit

def isTwoDigits (s : List Char) : Bool :=
  s.length == 2 && s.all Char.isDigit

/-- Whether a text is a time zone: nothing, universal time, or a distance from it. -/
def isZone (s : List Char) : Bool :=
  match s with
  | [] => true
  | ['Z'] => true
  | sign :: rest =>
    (sign = '+' || sign = '-') &&
      match Text.fields ':' rest with
      | [hour] => isShortNumber hour
      | [hour, minute] => isShortNumber hour && isTwoDigits minute
      | _ => false

/-- The fields of the time of day of a timestamp. -/
def timeText? (s : List Char) :
    Option (List Char × List Char × List Char × List Char × List Char) :=
  let hour := s.takeWhile Char.isDigit
  match s.dropWhile Char.isDigit with
  | ':' :: a :: b :: ':' :: c :: d :: rest =>
    let (fraction, rest) :=
      match rest with
      | '.' :: after => (after.takeWhile Char.isDigit, after.dropWhile Char.isDigit)
      | _ => ([], rest)
    let zone := rest.dropWhile fun x => x = ' ' || x = '\t'
    if isShortNumber hour && isTwoDigits [a, b] && isTwoDigits [c, d] && isZone zone &&
        (!zone.isEmpty || rest.isEmpty) then
      some (hour, [a, b], [c, d], fraction, zone)
    else none
  | _ => none

/-- The fields of a timestamp: a day, optionally with a time of day after a `T` or white space. -/
def timestampText? (s : List Char) : Option TimestampText :=
  let year := s.takeWhile Char.isDigit
  match s.dropWhile Char.isDigit with
  | '-' :: s =>
    let month := s.takeWhile Char.isDigit
    match s.dropWhile Char.isDigit with
    | '-' :: s =>
      let day := s.takeWhile Char.isDigit
      let rest := s.dropWhile Char.isDigit
      if year.length == 4 && isShortNumber month && isShortNumber day then
        match rest with
        | [] => some { year, month, day }
        | c :: after =>
          let time :=
            if c = 'T' || c = 't' then timeText? after
            else if c = ' ' || c = '\t' then
              timeText? (after.dropWhile fun x => x = ' ' || x = '\t')
            else none
          time.map fun time => { year, month, day, time := some time }
      else none
    | _ => none
  | _ => none

/-- Whether a plain text is a timestamp. A day without a time needs two digits for month and
day. -/
def isTimestamp (s : List Char) : Bool :=
  match timestampText? s with
  | none => false
  | some t => t.time.isSome || (isTwoDigits t.month && isTwoDigits t.day)

def truthWords : List (String × Bool) :=
  [("yes", true), ("no", false), ("true", true), ("false", false), ("on", true), ("off", false)]

/-- A word with its first letter in upper case. -/
def capitalised (word : String) : String :=
  match word.toList with
  | [] => ""
  | c :: rest => String.ofList (c.toUpper :: rest)

/-- Whether a plain text is one of some words in lower case, with a capital, or in capitals. -/
def isWordIn (words : List String) (text : String) : Bool :=
  words.any fun word =>
    text == word || text == capitalised word || text == word.toUpper

/-- A text without one line feed at its end. A line feed alone is kept. -/
def withoutFinalBreak (s : List Char) : List Char :=
  if s.length > 1 && s.getLast? = some '\n' then s.dropLast else s

/-- The type of a plain text. One line feed at its end does not count. -/
def plainTag (text : String) : Tag :=
  let s := withoutFinalBreak text.toList
  let text := String.ofList s
  if isWordIn (truthWords.map Prod.fst) text then .bool
  else if isDecimal s then .float
  else if isWholeNumber (unsigned s) then .int
  else if text == "<<" then .merge
  else if text == "" || text == "~" || isWordIn ["null"] text then .null
  else if isTimestamp s then .timestamp
  else if text == "=" then .value
  else .str

def numberIn (base : Nat) (digits : List Char) : Except Error Int :=
  (Decimal.readWhole base digits).mapError .number

def inBaseSixty (groups : List Int) : Int :=
  groups.foldl (fun total group => 60 * total + group) 0

def wholeNumber (text : String) : Except Error Value :=
  let s := text.toList.filter fun c => c ≠ '_'
  if s.isEmpty then .error .emptyNumber
  else
    let sign : Int := if s.head? = some '-' then -1 else 1
    let digits := unsigned s
    let value : Except Error Int :=
      match digits with
      | [] => .error .emptyNumber
      | ['0'] => .ok 0
      | '0' :: 'b' :: rest => numberIn 2 rest
      | '0' :: 'x' :: rest => numberIn 16 rest
      | '0' :: _ => numberIn 8 digits
      | _ =>
        if digits.contains ':' then
          ((Text.fields ':' digits).mapM (numberIn 10)).map inBaseSixty
        else numberIn 10 digits
    value.map fun n => .int (sign * n)

/-- The value of a decimal number without its sign. -/
def decimalPart (digits : List Char) : Except Error Float :=
  (Decimal.readDecimal digits).mapError .number

/-- The sum of groups of a number in base sixty, the lowest group first. The factors have to stay
below the largest floating-point number. -/
def decimalInBaseSixty (groups : List Float) : Except Error Float :=
  groups.zipIdx.foldlM
    (fun total group =>
      let factor := Nat.pow 60 group.2
      if factor < Nat.pow 2 1024 then .ok (total + group.1 * Float.ofNat factor)
      else .error .hugeFactor)
    0.0

/-- The digits of a decimal number, its sign included, in lower case and without underscores. -/
def decimalDigits (text : String) : List Char :=
  Text.lower (text.toList.filter fun c => c ≠ '_')

/-- Whether a text names the one value that is no number. Every such text stands for the same
object. -/
def isNoNumber (text : String) : Bool :=
  unsigned (decimalDigits text) = ".nan".toList

def decimalNumber (text : String) : Except Error Value :=
  let s := decimalDigits text
  if s.isEmpty then .error .emptyNumber
  else
    let negative := s.head? = some '-'
    let digits := unsigned s
    let value : Except Error Float :=
      if digits = ".inf".toList then .ok (1.0 / 0.0)
      else if digits = ".nan".toList then .ok (0.0 / 0.0)
      else if digits.contains ':' then do
        let groups ← (Text.fields ':' digits).mapM decimalPart
        decimalInBaseSixty groups.reverse
      else decimalPart digits
    value.map fun x => .float (if negative then -x else x)

def truthValue (text : String) : Except Error Value :=
  let word := String.ofList (Text.lower text.toList)
  match truthWords.lookup word with
  | some b => .ok (.bool b)
  | none => .error (.truth word)

def dayOf (year month day : Nat) : Except Error Day :=
  if year == 0 then .error (.date (.year year))
  else if month == 0 || month > 12 then .error (.date .month)
  else if day == 0 || day > monthLength year month then .error (.date .day)
  else .ok { year, month, day }

/-- The distance from universal time that a zone stands for. -/
def zoneOffset : List Char → Except Error (Option Int)
  | [] => .ok none
  | ['Z'] => .ok (some 0)
  | sign :: rest =>
    let (hours, minutes) :=
      match Text.fields ':' rest with
      | [hour, minute] => (Decimal.ofDigits hour, Decimal.ofDigits minute)
      | _ => (Decimal.ofDigits rest, 0)
    let seconds := Int.ofNat (hours * 3600 + minutes * 60)
    let offset := if sign = '-' then -seconds else seconds
    if offset.natAbs < 86400 then .ok (some offset) else .error (.offset offset)

def timestampValue (text : String) : Except Error Value :=
  match timestampText? (withoutFinalBreak text.toList) with
  | none => .error .timestamp
  | some t => do
    let number := Decimal.ofDigits
    match t.time with
    | none => return .day (← dayOf (number t.year) (number t.month) (number t.day))
    | some (hour, minute, second, fraction, zone) =>
      let microsecond := number ((fraction ++ List.replicate 6 '0').take 6)
      let zone ← zoneOffset zone
      let date ← dayOf (number t.year) (number t.month) (number t.day)
      if number hour > 23 then .error (.date .hour)
      else if number minute > 59 then .error (.date .minute)
      else if number second > 59 then .error (.date .second)
      else
        return .moment { date, hour := number hour, minute := number minute,
                         second := number second, microsecond, zone }

def binaryDigit? (c : Char) : Option Nat :=
  if 'A' ≤ c && c ≤ 'Z' then some (c.toNat - 65)
  else if 'a' ≤ c && c ≤ 'z' then some (c.toNat - 71)
  else if c.isDigit then some (c.toNat + 4)
  else if c = '+' then some 62
  else if c = '/' then some 63
  else none

/-- Read binary data digit by digit. The state is the count of digits of the group so far, the
bits left over from them and the count of equals signs since the last digit. Other characters are
passed over. An equals sign ends the data once it completes a group of at least two digits;
otherwise the data must end with a full group. -/
def binaryBytes : Nat → Nat → Nat → List Char → Option (List UInt8)
  | place, _, _, [] => if place = 0 then some [] else none
  | place, bits, signs, c :: rest =>
    if c = '=' then
      if place ≥ 2 then
        if place + signs + 1 ≥ 4 then some [] else binaryBytes place bits (signs + 1) rest
      else binaryBytes place bits signs rest
    else
      match binaryDigit? c with
      | none => binaryBytes place bits signs rest
      | some n =>
        match place with
        | 0 => binaryBytes 1 n 0 rest
        | 1 => (binaryBytes 2 (n % 16) 0 rest).map (UInt8.ofNat (bits * 4 + n / 16) :: ·)
        | 2 => (binaryBytes 3 (n % 4) 0 rest).map (UInt8.ofNat (bits * 16 + n / 4) :: ·)
        | _ => (binaryBytes 0 0 0 rest).map (UInt8.ofNat (bits * 64 + n) :: ·)

/-- The value of binary data, which is written in ASCII. -/
def binaryValue (text : String) : Except Error Value :=
  let s := text.toList
  match s.all (fun c => c.toNat < 128), binaryBytes 0 0 0 s with
  | true, some bytes => .ok (.bytes bytes)
  | _, _ => .error .malformed

end SymbolReference.Yaml

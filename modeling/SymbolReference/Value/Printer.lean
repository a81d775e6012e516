import SymbolReference.Decimal.Reader
import SymbolReference.Text.Lines
import SymbolReference.Text.Quoted
import SymbolReference.Value.Basic

namespace SymbolReference

/-- Floating-point numbers are written positionally from `1e-4` to below `1e16` and keep a zero
after the point of a whole number. -/
def floatLayout : Decimal.Layout := {}

/-- The two parts of a complex number are written without the zero after the point. -/
def complexLayout : Decimal.Layout := { pointZero := false }

/-- A complex number: the imaginary part alone when the real part is a plain zero, else both parts
in parentheses. -/
def renderComplex (re im : Float) : List Char :=
  let imaginary := Decimal.write complexLayout im ++ ['j']
  match Decimal.parts re with
  | .zero false => imaginary
  | _ =>
    let sign := if Decimal.isNegative im then [] else ['+']
    '(' :: Decimal.write complexLayout re ++ sign ++ imaginary ++ [')']

/-- A number with at least the given count of digits. -/
def padded (width n : Nat) : List Char :=
  let digits := Decimal.natDigits n
  List.replicate (width - digits.length) '0' ++ digits

def commaSeparated (numbers : List Nat) : List Char :=
  Text.joined [',', ' '] (numbers.map Decimal.natDigits)

/-- A day as a constructor call. -/
def Day.render (d : Day) : List Char :=
  "datetime.date(".toList ++ commaSeparated [d.year, d.month, d.day] ++ [')']

def Day.plain (d : Day) : List Char :=
  padded 4 d.year ++ '-' :: padded 2 d.month ++ '-' :: padded 2 d.day

/-- A length of time in whole seconds as a constructor call: days and the seconds left over. -/
def renderDuration (seconds : Int) : List Char :=
  let days := seconds.fdiv 86400
  let rest := seconds.fmod 86400
  let fields :=
    (if days = 0 then [] else ["days=".toList ++ Decimal.intDigits days]) ++
      (if rest = 0 then [] else ["seconds=".toList ++ Decimal.intDigits rest])
  "datetime.timedelta(".toList ++
    (if fields.isEmpty then ['0'] else Text.joined [',', ' '] fields) ++ [')']

/-- A time zone as a constructor call. -/
def renderZone (seconds : Int) : List Char :=
  if seconds = 0 then "datetime.timezone.utc".toList
  else "datetime.timezone(".toList ++ renderDuration seconds ++ [')']

/-- A moment as a constructor call. Seconds and microseconds are left out from the right while
they are zero. -/
def Moment.render (m : Moment) : List Char :=
  let time :=
    if m.microsecond ≠ 0 then [m.second, m.microsecond]
    else if m.second ≠ 0 then [m.second]
    else []
  "datetime.datetime(".toList ++
    commaSeparated ([m.date.year, m.date.month, m.date.day, m.hour, m.minute] ++ time) ++
    (match m.zone with
      | none => []
      | some seconds => ", tzinfo=".toList ++ renderZone seconds) ++ [')']

/-- The distance from universal time as a sign, hours and minutes, and seconds when there are
any. -/
def plainOffset (seconds : Int) : List Char :=
  let n := seconds.natAbs
  (if seconds < 0 then '-' else '+') :: padded 2 (n / 3600) ++ ':' :: padded 2 (n / 60 % 60) ++
    (if n % 60 = 0 then [] else ':' :: padded 2 (n % 60))

def Moment.plain (m : Moment) : List Char :=
  m.date.plain ++ ' ' :: padded 2 m.hour ++ ':' :: padded 2 m.minute ++ ':' :: padded 2 m.second ++
    (if m.microsecond = 0 then [] else '.' :: padded 6 m.microsecond) ++
    (match m.zone with
      | none => []
      | some seconds => plainOffset seconds)

/-- An arithmetic progression; the step is left out when it is one. -/
def renderRange (start stop step : Int) : List Char :=
  "range(".toList ++ Decimal.intDigits start ++ ", ".toList ++ Decimal.intDigits stop ++
    (if step = 1 then [] else ", ".toList ++ Decimal.intDigits step) ++ [')']

namespace Value

mutual

/-- The written form of a value. -/
def render : Value → List Char
  | none => "None".toList
  | bool b => (if b then "True" else "False").toList
  | int n => Decimal.intDigits n
  | float x => Decimal.write floatLayout x
  | complex re im => renderComplex re im
  | bytes data => Text.quotedBytes data
  | str s => Text.quoted s.toList
  | kind k => "<SymbolKind.".toList ++ k.capitals.toList ++ ": ".toList ++
      Text.quoted k.label.toList ++ ['>']
  | list items => '[' :: renderItems items ++ [']']
  | tuple [] => "()".toList
  | tuple [item] => '(' :: render item ++ ",)".toList
  | tuple (first :: second :: others) =>
      '(' :: render first ++ ", ".toList ++ render second ++ renderMore others ++ [')']
  | set [] => "set()".toList
  | set (first :: others) => '\x7b' :: render first ++ renderMore others ++ ['\x7d']
  | frozenset [] => "frozenset()".toList
  | frozenset (first :: others) =>
      "frozenset(\x7b".toList ++ render first ++ renderMore others ++ "\x7d)".toList
  | dict entries => '\x7b' :: renderEntries entries ++ ['\x7d']
  | range start stop step => renderRange start stop step
  | ellipsis => "Ellipsis".toList
  | day d => d.render
  | moment m => m.render
  | cycle keyed => (if keyed then "\x7b...\x7d" else "[...]").toList
  | object o => o.text.toList

/-- The written forms of values with commas between them. -/
def renderItems : List Value → List Char
  | [] => []
  | item :: others => render item ++ renderMore others

/-- The written forms of values, each after a comma. -/
def renderMore : List Value → List Char
  | [] => []
  | item :: others => ", ".toList ++ render item ++ renderMore others

/-- The written forms of the entries of a dictionary with commas between them. -/
def renderEntries : List (Value × Value) → List Char
  | [] => []
  | (key, value) :: others =>
      render key ++ ": ".toList ++ render value ++ renderMoreEntries others

/-- The written forms of the entries of a dictionary, each after a comma. -/
def renderMoreEntries : List (Value × Value) → List Char
  | [] => []
  | (key, value) :: others =>
      ", ".toList ++ render key ++ ": ".toList ++ render value ++ renderMoreEntries others

end

mutual

/-- Whether every whole number inside a value has few enough digits to be written. -/
def isWritable : Value → Bool
  | int n => Decimal.isWritable n
  | range start stop step =>
    Decimal.isWritable start && Decimal.isWritable stop && Decimal.isWritable step
  | list items | tuple items | set items | frozenset items => areWritable items
  | dict entries => areWritableEntries entries
  | none | bool _ | float _ | complex _ _ | bytes _ | str _ | kind _ | ellipsis | day _ | moment _
  | cycle _ | object _ => true

def areWritable : List Value → Bool
  | [] => true
  | item :: others => isWritable item && areWritable others

/-- Whether every key and value of a dictionary can be written. -/
def areWritableEntries : List (Value × Value) → Bool
  | [] => true
  | (key, value) :: others => isWritable key && isWritable value && areWritableEntries others

end

def written (v : Value) : String :=
  String.ofList v.render

/-- The bare form of a value: a string, a date or a moment stands for itself. -/
def bare : Value → String
  | str s => s
  | kind k => "SymbolKind." ++ k.capitals
  | day d => String.ofList d.plain
  | moment m => String.ofList m.plain
  | v => v.written

end Value

end SymbolReference

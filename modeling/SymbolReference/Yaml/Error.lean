import SymbolReference.Decimal.Reader
import SymbolReference.Value.Printer

namespace SymbolReference.Yaml

/-- The fields of a date or time that have a range of their own. -/
inductive DateField where
  | year (n : Nat)
  | month
  | day
  | hour
  | minute
  | second
deriving Repr, DecidableEq

/-- Why a YAML text cannot be read: it breaks the rules of the format, or a scalar of a known type
has no value of that type. -/
inductive Error where
  | malformed
  | number (e : Decimal.NumberError)
  | emptyNumber
  | hugeFactor
  | truth (word : String)
  | codePoint
  | hugeCodePoint
  | date (field : DateField)
  | offset (seconds : Int)
  | timestamp
  | timestampEntries
  | endless
deriving Repr, DecidableEq

def DateField.message : DateField → String
  | year n => "year " ++ String.ofList (Decimal.natDigits n) ++ " is out of range"
  | month => "month must be in 1..12"
  | day => "day is out of range for month"
  | hour => "hour must be in 0..23"
  | minute => "minute must be in 0..59"
  | second => "second must be in 0..59"

/-- The message about an error. A text that breaks the rules of the format has none. -/
def Error.message : Error → String
  | malformed => ""
  | number e => e.message
  | emptyNumber => "string index out of range"
  | hugeFactor => "int too large to convert to float"
  | truth word => Text.quote word
  | codePoint => "chr() arg not in range(0x110000)"
  | hugeCodePoint => "Python int too large to convert to C int"
  | date field => field.message
  | offset seconds =>
    "offset must be a timedelta strictly between -timedelta(hours=24) and timedelta(hours=24), " ++
      "not " ++ String.ofList (renderDuration seconds) ++ "."
  | timestamp => "'NoneType' object has no attribute 'groupdict'"
  | timestampEntries => "expected string or bytes-like object, got 'list'"
  | endless => "maximum recursion depth exceeded"

end SymbolReference.Yaml

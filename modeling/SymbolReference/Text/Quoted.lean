import SymbolReference.Text.Printable
import SymbolReference.Text.Surrogate

namespace SymbolReference.Text

/-- The hexadecimal digit of a number below sixteen. -/
def hexDigit (n : Nat) : Char :=
  if n < 10 then Char.ofNat (48 + n) else Char.ofNat (87 + n)

/-- The lower-case hexadecimal form of a number with a fixed count of digits. -/
def hexDigits : Nat → Nat → List Char
  | 0, _ => []
  | width + 1, n => hexDigits width (n / 16) ++ [hexDigit (n % 16)]

/-- The quote around a text. -/
def quoteFor (s : List Char) : Char :=
  if s.contains '\'' && !s.contains '"' then '"' else '\''

/-- The escape of a code point by its number, in the shortest of the three widths. -/
def escapeCode (n : Nat) : List Char :=
  if n < 0x100 then '\\' :: 'x' :: hexDigits 2 n
  else if n < 0x10000 then '\\' :: 'u' :: hexDigits 4 n
  else '\\' :: 'U' :: hexDigits 8 n

/-- One character inside a quoted text. -/
def quotedChar (quote c : Char) : List Char :=
  if c = quote || c = '\\' then ['\\', c]
  else if c = '\n' then ['\\', 'n']
  else if c = '\r' then ['\\', 'r']
  else if c = '\t' then ['\\', 't']
  else if isPrintable c then [c]
  else escapeCode (codeOfChar c)

/-- A text between the given quotes. -/
def quotedWith (quote : Char) (s : List Char) : List Char :=
  quote :: s.flatMap (quotedChar quote) ++ [quote]

/-- A text in quotes of the kind that suits it. -/
def quoted (s : List Char) : List Char :=
  quotedWith (quoteFor s) s

/-- A string in quotes of the kind that suits it. -/
def quote (s : String) : String :=
  String.ofList (quoted s.toList)

def quotedByte (quote : Char) (byte : UInt8) : List Char :=
  let c := Char.ofNat byte.toNat
  if c = quote || c = '\\' then ['\\', c]
  else if c = '\n' then ['\\', 'n']
  else if c = '\r' then ['\\', 'r']
  else if c = '\t' then ['\\', 't']
  else if 32 ≤ byte.toNat && byte.toNat < 127 then [c]
  else '\\' :: 'x' :: hexDigits 2 byte.toNat

/-- A byte string in quotes of the kind that suits it, after its mark `b`. -/
def quotedBytes (bytes : List UInt8) : List Char :=
  let quote := quoteFor (bytes.map fun byte => Char.ofNat byte.toNat)
  'b' :: quote :: bytes.flatMap (quotedByte quote) ++ [quote]

end SymbolReference.Text

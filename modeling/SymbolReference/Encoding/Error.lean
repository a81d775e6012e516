import SymbolReference.Decimal.Layout
import SymbolReference.Text.Quoted

namespace SymbolReference.Encoding

/-- Why bytes cannot be read: some of them have no meaning, a byte order mark is missing, the
encoding is for no text at all, the numbers at the end of a compressed text are wrong, or so is a
label of a name that holds such a text, or a set of characters is used where it cannot be. -/
inductive EncodingError where
  | unreadable (encoding : String) (first : Nat) (bytes : List Nat) (reason : String)
  | noMark (bits : Nat)
  | undefined
  | cutNumber
  | notADigit (c : Char)
  | noCharacter (code : Nat)
  | badLabel (e : EncodingError)
  | labelLength
  | internal
  | labelChanged (label plain : String)
deriving Repr, DecidableEq

/-- The message about bytes that cannot be read. -/
def EncodingError.message : EncodingError → String
  | unreadable encoding first bytes reason =>
    let place :=
      match bytes with
      | [n] => "byte 0x" ++ String.ofList (Text.hexDigits 2 n) ++ " in position " ++ number first
      | bytes => "bytes in position " ++ number first ++ "-" ++ number (first + bytes.length - 1)
    "'" ++ encoding ++ "' codec can't decode " ++ place ++ ": " ++ reason
  | noMark bits => "UTF-" ++ number bits ++ " stream does not start with BOM"
  | undefined => "undefined encoding"
  | cutNumber => "incomplete punicode string"
  | notADigit c => "Invalid extended code point '" ++ String.ofList [c] ++ "'"
  | noCharacter code => "Invalid character U+" ++ String.ofList (Nat.toDigits 16 code)
  | badLabel e => "decoding with 'punycode' codec failed (UnicodeError: " ++ e.message ++ ")"
  | labelLength => "label empty or too long"
  | internal => "internal codec error"
  | labelChanged label plain =>
    "('IDNA does not round-trip', b" ++ Text.quote label ++ ", b" ++ Text.quote plain ++ ")"
where
  /-- A number in decimal digits. -/
  number (n : Nat) : String := String.ofList (Decimal.natDigits n)

end SymbolReference.Encoding

import SymbolReference.Encoding.Error
import SymbolReference.Text.Surrogate

namespace SymbolReference.Encoding

/-- The order of the bytes of a number. -/
inductive ByteOrder where
  | little
  | big
deriving Repr, DecidableEq

/-- The order as names of encodings have it. -/
def ByteOrder.suffix : ByteOrder → String
  | little => "le"
  | big => "be"

def ByteOrder.number (order : ByteOrder) (bytes : List Nat) : Nat :=
  let big :=
    match order with
    | little => bytes.reverse
    | big => bytes
  big.foldl (fun n b => 256 * n + b) 0

def isFirstHalf (code : Nat) : Bool := 0xD800 ≤ code && code < 0xDC00

def isSecondHalf (code : Nat) : Bool := 0xDC00 ≤ code && code < 0xE000

/-- The code point of two halves. -/
def joinHalves (first second : Nat) : Nat :=
  0x10000 + (first - 0xD800) * 0x400 + (second - 0xDC00)

/-- The characters of numbers of two bytes. Two numbers may stand for one character. -/
def readUtf16 (order : ByteOrder) : Nat → List Nat → Except EncodingError (List Char)
  | _, [] => .ok []
  | place, [n] => wrong place [n] "truncated data"
  | place, a :: b :: rest => do
    let code := order.number [a, b]
    if isSecondHalf code then wrong place [a, b] "illegal encoding"
    else if isFirstHalf code then
      match rest with
      | c :: d :: rest =>
        let next := order.number [c, d]
        if isSecondHalf next then
          return Char.ofNat (joinHalves code next) :: (← readUtf16 order (place + 4) rest)
        else wrong place [a, b] "illegal UTF-16 surrogate"
      | rest => wrong place (a :: b :: rest) "unexpected end of data"
    else return Char.ofNat code :: (← readUtf16 order (place + 2) rest)
where
  /-- The error about bytes at a place. -/
  wrong (place : Nat) (bytes : List Nat) (reason : String) : Except EncodingError (List Char) :=
    .error (.unreadable ("utf-16-" ++ order.suffix) place bytes reason)

/-- The characters of numbers of four bytes. -/
def readUtf32 (order : ByteOrder) : Nat → List Nat → Except EncodingError (List Char)
  | _, [] => .ok []
  | place, a :: b :: c :: d :: rest => do
    let code := order.number [a, b, c, d]
    if Text.isHalf code then
      wrong place [a, b, c, d] "code point in surrogate code point range(0xd800, 0xe000)"
    else if 0x10FFFF < code then wrong place [a, b, c, d] "code point not in range(0x110000)"
    else return Char.ofNat code :: (← readUtf32 order (place + 4) rest)
  | place, bytes => wrong place bytes "truncated data"
where
  /-- The error about bytes at a place. -/
  wrong (place : Nat) (bytes : List Nat) (reason : String) : Except EncodingError (List Char) :=
    .error (.unreadable ("utf-32-" ++ order.suffix) place bytes reason)

/-- The characters after a byte order mark, which a text that is stored in UTF-8 cannot start
with: only an empty text has none and passes. -/
def readMarked (bits : Nat) (read : Nat → List Nat → Except EncodingError (List Char))
    (bytes : List Nat) : Except EncodingError (List Char) := do
  let chars ← read 0 bytes
  if bytes.isEmpty then return chars else throw (.noMark bits)

end SymbolReference.Encoding

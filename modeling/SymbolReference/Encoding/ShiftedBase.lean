import SymbolReference.Encoding.Unicode

/-!
UTF-7: ASCII, with stretches in base 64.

A plus sign starts a stretch, whose digits write numbers of 16 bits one after another. A hyphen ends
it, and so does any character that is no digit. The bits that are left over must be zero.
-/

namespace SymbolReference.Encoding

def base64Digit? (b : Nat) : Option Nat :=
  if 65 ≤ b && b ≤ 90 then some (b - 65)
  else if 97 ≤ b && b ≤ 122 then some (b - 97 + 26)
  else if 48 ≤ b && b ≤ 57 then some (b - 48 + 52)
  else if b = 43 then some 62
  else if b = 47 then some 63
  else none

/-- A stretch in base 64 under way: its bytes so far, the bits that make no number yet and how many
they are, and the first half of a pair that waits for the second. -/
structure Stretch where
  start : Nat
  bytes : List Nat
  buffer : Nat := 0
  bits : Nat := 0
  half : Option Nat := none
deriving Repr, DecidableEq

namespace Stretch

/-- The character of a half that has no second one. -/
def loneHalf (s : Stretch) : List Char :=
  (s.half.map Text.charOfCode).toList

def step (s : Stretch) (b digit : Nat) : List Char × Stretch :=
  let buffer := 64 * s.buffer + digit
  let bits := s.bits + 6
  let s := { s with bytes := s.bytes ++ [b], buffer, bits }
  if bits < 16 then ([], s)
  else
    let scale := 1 <<< (bits - 16)
    let code := buffer / scale
    let s := { s with buffer := buffer % scale, bits := bits - 16 }
    match s.half with
    | some first =>
      if isSecondHalf code then
        ([Char.ofNat (joinHalves first code)], { s with half := none })
      else if isFirstHalf code then (s.loneHalf, { s with half := some code })
      else (s.loneHalf ++ [Text.charOfCode code], { s with half := none })
    | none =>
      if isFirstHalf code then ([], { s with half := some code })
      else ([Text.charOfCode code], s)

/-- What is wrong with the bits that are left over, if anything. -/
def leftover? (s : Stretch) : Option String :=
  if 6 ≤ s.bits then some "partial character in shift sequence"
  else if 0 < s.bits && s.buffer ≠ 0 then some "non-zero padding bits in shift sequence"
  else none

/-- Whether a stretch may not end with the text. -/
def isOpen (s : Stretch) : Bool :=
  s.half.isSome || s.leftover?.isSome

end Stretch

/-- The characters of bytes from a place on, within a stretch or outside. -/
def readUtf7 : Option Stretch → Nat → List Nat → Except EncodingError (List Char)
  | none, _, [] => .ok []
  | some s, _, [] =>
    if s.isOpen then wrong s.start s.bytes "unterminated shift sequence" else .ok []
  | none, place, [43] => readUtf7 (some { start := place, bytes := [43] }) (place + 1) []
  | none, place, 43 :: b :: rest =>
    if b = 45 then return '+' :: (← readUtf7 none (place + 2) rest)
    else if (base64Digit? b).isNone then wrong place [43, b] "ill-formed sequence"
    else readUtf7 (some { start := place, bytes := [43] }) (place + 1) (b :: rest)
  | none, place, b :: rest =>
    if b < 128 then return Char.ofNat b :: (← readUtf7 none (place + 1) rest)
    else wrong place [b] "unexpected special character"
  | some s, place, b :: rest =>
    match base64Digit? b with
    | some digit => do
      let (chars, s) := s.step b digit
      return chars ++ (← readUtf7 (some s) (place + 1) rest)
    | none =>
      match s.leftover? with
      | some reason => wrong s.start (s.bytes ++ [b]) reason
      | none => do
        let lone := if b < 128 then s.loneHalf else []
        if b = 45 then return lone ++ (← readUtf7 none (place + 1) rest)
        else if b < 128 then return lone ++ Char.ofNat b :: (← readUtf7 none (place + 1) rest)
        else wrong place [b] "unexpected special character"
termination_by s _ bytes => (bytes.length, if s.isSome then 0 else 1)
where
  /-- The error about bytes at a place. -/
  wrong (place : Nat) (bytes : List Nat) (reason : String) : Except EncodingError (List Char) :=
    .error (.unreadable "utf7" place bytes reason)

end SymbolReference.Encoding

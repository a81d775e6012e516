import SymbolReference.Encoding.Error
import SymbolReference.Text.Surrogate

/-!
Punycode: texts as ASCII characters and numbers that say where others go.

After the last hyphen follow numbers in base 36 with digits of varying weight. Each of them says how
far to go on through the places and code points before the next character is put in.
-/

namespace SymbolReference.Encoding

/-- The characters of bytes that are all ASCII. -/
def readAscii (place : Nat) : List Nat → Except EncodingError (List Char)
  | [] => .ok []
  | b :: rest => do
    if b < 128 then return Char.ofNat b :: (← readAscii (place + 1) rest)
    else throw (.unreadable "ascii" place [b] "ordinal not in range(128)")

/-- The value of a digit in base 36. Letters are capitals and come first. -/
def base36Digit? (c : Char) : Option Nat :=
  if c.isUpper then some (c.toNat - 'A'.toNat)
  else if c.isDigit then some (c.toNat - '0'.toNat + 26)
  else none

def digitThreshold (place bias : Nat) : Nat :=
  max 1 (min 26 (36 * (place + 1) - bias))

/-- Read a number whose digits start at a place, and the rest of the text. -/
def readDelta (bias : Nat) : Nat → Nat → Nat → List Char → Except EncodingError (Nat × List Char)
  | _, _, _, [] => .error .cutNumber
  | place, weight, sum, c :: rest =>
    match base36Digit? c with
    | none => .error (.notADigit c)
    | some digit =>
      let threshold := digitThreshold place bias
      let sum := sum + digit * weight
      if digit < threshold then .ok (sum, rest)
      else readDelta bias (place + 1) (weight * (36 - threshold)) sum rest

/-- A number that was read leaves a shorter text. -/
theorem length_lt_of_readDelta {bias place weight sum n : Nat} {s rest : List Char}
    (h : readDelta bias place weight sum s = .ok (n, rest)) : rest.length < s.length := by
  induction s generalizing place weight sum with
  | nil => simp [readDelta] at h
  | cons c s ih =>
    rw [readDelta] at h
    split at h
    · simp at h
    · dsimp only at h
      split at h
      · simp only [Except.ok.injEq, Prod.mk.injEq] at h
        simp [h.2]
      · have := ih h
        simp only [List.length_cons]
        omega

/-- Divide a number by 35 until it is small. The number of divisions is returned with it. -/
def divided (n : Nat) : Nat × Nat :=
  if 455 < n then
    let (m, count) := divided (n / 35)
    (m, count + 1)
  else (n, 0)
termination_by n
decreasing_by exact Nat.div_lt_self (by omega) (by omega)

def nextBias (delta : Nat) (isFirst : Bool) (length : Nat) : Nat :=
  let delta := if isFirst then delta / 700 else delta / 2
  let (delta, count) := divided (delta + delta / length)
  36 * count + 36 * delta / (delta + 38)

/-- Put in the characters that numbers say. The next place to put one in is counted on. -/
def insertAll (isFirst : Bool) (bias code place : Nat) (chars digits : List Char) :
    Except EncodingError (List Char) :=
  match digits with
  | [] => .ok chars
  | c :: others =>
    match read : readDelta bias 0 1 0 (c :: others) with
    | .error e => .error e
    | .ok (delta, rest) =>
      let place := place + delta
      let room := chars.length + 1
      let code := code + place / room
      if 0x10FFFF < code then .error (.noCharacter code)
      else
        let place := place % room
        let chars := chars.take place ++ Text.charOfCode code :: chars.drop place
        insertAll false (nextBias delta isFirst room) code (place + 1) chars rest
termination_by digits.length
decreasing_by exact length_lt_of_readDelta read

/-- The characters of a text in punycode. Before the last hyphen they stand for themselves. -/
def readPunycode (bytes : List Nat) : Except EncodingError (List Char) := do
  let tail := bytes.reverse.takeWhile (· ≠ 45)
  let hasHyphen := tail.length < bytes.length
  let base := if hasHyphen then bytes.take (bytes.length - tail.length - 1) else []
  let chars ← readAscii 0 base
  let digits ← readAscii 0 tail.reverse
  insertAll true 72 0x80 0 chars (digits.map Char.toUpper)

/-- How a label starts whose rest is in punycode. -/
def compressedStart : List Char := "xn--".toList

/-- The characters of a label, which must not be plain ASCII once they are written out. -/
def readLabel (label : List Char) : Except EncodingError (List Char) := do
  if !compressedStart.isPrefixOf label then return label
  let chars ← (readPunycode ((label.drop 4).map Char.toNat)).mapError .badLabel
  let isPlain := chars.all fun c => c.toNat < 128
  let length := if isPlain then chars.length else label.length
  if length = 0 || 64 ≤ length then throw .labelLength
  else if isPlain then throw (.labelChanged (String.ofList label) (String.ofList chars))
  else return chars

/-- The parts of a text between points. -/
def labels : List Char → List (List Char)
  | [] => [[]]
  | c :: rest =>
    match decide (c = '.'), labels rest with
    | true, found => [] :: found
    | false, first :: others => (c :: first) :: others
    | false, [] => [[c]]

/-- The characters of a text of labels between points. -/
def readLabels (bytes : List Nat) : Except EncodingError (List Char) := do
  let found ← (labels (← readAscii 0 bytes)).mapM readLabel
  return (found.intersperse ['.']).flatten

end SymbolReference.Encoding

import SymbolReference.Encoding.Chinese
import SymbolReference.Encoding.HongKong
import SymbolReference.Encoding.Japanese
import SymbolReference.Encoding.JapaneseExtension
import SymbolReference.Encoding.Korean
import SymbolReference.Encoding.Scan
import SymbolReference.Encoding.Taiwan

namespace SymbolReference.Encoding

/-- Read one byte as a character. -/
def single (code : Nat) : Except Misreading (Reading Unit) :=
  .ok { chars := [Char.ofNat code], state := () }

/-- Read a number of bytes beyond the first one as characters, if they are any. -/
def known (more : Nat) (chars : Option (List Char)) : Except Misreading (Reading Unit) :=
  match chars with
  | some chars => .ok { chars, more, state := () }
  | none => .error (.illegal 1)

/-- Read a pair of bytes. -/
def pair (find? : Nat → Nat → Option (List Char)) (first : Nat) (rest : List Nat) :
    Except Misreading (Reading Unit) :=
  match rest with
  | [] => .error .incomplete
  | second :: _ => known 1 (find? first second)

/-- Read a byte below 128 as itself, and others in pairs. -/
def asciiOrPair (find? : Nat → Nat → Option (List Char)) : Step Unit := fun _ first rest =>
  if first < 128 then single first else pair find? first rest

/-- The character of a table at two bytes. -/
def CharTable.pair? (t : CharTable) (a b : Nat) : Option (List Char) :=
  (t.at? a b).map ([·])

/-- The character of a table of 7-bit codes at two bytes above 127. -/
def CharTable.highPair? (t : CharTable) (a b : Nat) : Option (List Char) :=
  if 128 ≤ a && 128 ≤ b then t.pair? (a - 128) (b - 128) else none

/-- The characters among a number of consecutive ones that a table lacks. -/
def CharTable.lacking (t : CharTable) (first count : Nat) : Array Char :=
  let marks := t.chars.foldl
    (fun marks c => if first ≤ c.toNat then marks.setIfInBounds (c.toNat - first) true else marks)
    (Array.replicate count false)
  ((List.range count).filter fun i => !(marks[i]?.getD false)).toArray.map fun i =>
    Char.ofNat (first + i)

/-- The narrow katakana of a byte. -/
def katakana? (b : Nat) : Option Nat :=
  if 0xA1 ≤ b && b ≤ 0xDF then some (0xFEC0 + b) else none

/-- The row, counted from 0, and the column of two shifted bytes. -/
def unshifted? (a b : Nat) : Option (Nat × Nat) :=
  if ((0x81 ≤ a && a ≤ 0x9F) || (0xE0 ≤ a && a ≤ 0xFC)) && 0x40 ≤ b && b ≤ 0xFC && b ≠ 0x7F then
    let half := if a < 0xE0 then a - 0x81 else a - 0xC1
    let cell := if b < 0x80 then b - 0x40 else b - 0x41
    some (if cell < 94 then (2 * half, cell + 33) else (2 * half + 1, cell - 94 + 33))
  else none

/-- The characters that JIS X 0213 has had in its first plane only since 2004. -/
def jisX0213Later : List Nat :=
  [0x2E21, 0x2F7E, 0x4F54, 0x4F7E, 0x7427, 0x7E7A, 0x7E7B, 0x7E7C, 0x7E7D, 0x7E7E]

/-- Whether an edition of JIS X 0213 lacks a character of its first plane. -/
def isLater (old : Bool) (row column : Nat) : Bool :=
  old && jisX0213Later.contains (256 * row + column)

/-- The characters in the first plane of JIS X 0213, in its old edition or the one of 2004. -/
def firstPlane? (old : Bool) (row column : Nat) : Option (List Char) :=
  if isLater old row column then none
  else
    jisX0208.pair? row column <|> jisX0213First.pair? row column <|>
      (jisX0213Pairs.lookup (256 * row + column)).map String.toList

/-- The characters in the second plane of JIS X 0213. One of them was changed in 2004. -/
def secondPlane? (old : Bool) (row column : Nat) : Option (List Char) :=
  if old && row = 0x7D && column = 0x3B then some ['\u9B1D'] else jisX0213Second.pair? row column

/-- The characters at two shifted bytes: the rows after the first plane are some of the second. -/
def shiftedPlanes? (old : Bool) (a b : Nat) : Option (List Char) :=
  (unshifted? a b).bind fun (row, column) =>
    if row < 94 then
      match row + 33, column with
      | 0x21, 0x40 => some ['\\']
      | 0x22, 0x32 => some ['~']
      | row, column => firstPlane? old row column
    else if 0x67 ≤ row then secondPlane? old (row + 7) column
    else if 0x63 ≤ row || row = 0x5F then secondPlane? old (row - 0x37) column
    else secondPlane? old (row - 0x3D) column

/-- Read a pair of bytes. Some pairs are illegal as a whole. -/
def pairUnless (isIllegal : Nat → Nat → Bool) (find? : Nat → Nat → Option (List Char))
    (first : Nat) (rest : List Nat) : Except Misreading (Reading Unit) :=
  if rest.head?.any (isIllegal first) then .error (.illegal 2) else pair find? first rest

/-- Whether a byte starts a shifted pair. -/
def isShiftedLead (b : Nat) : Bool :=
  (0x81 ≤ b && b ≤ 0x9F) || (0xE0 ≤ b && b ≤ 0xFC)

def shiftedStep : Step Unit := fun _ first rest =>
  match katakana? first with
  | some code => single code
  | none =>
    if first < 128 then single first
    else if isShiftedLead first then
      pair (fun a b => (unshifted? a b).bind fun (row, column) =>
        jisX0208.pair? (row + 33) column) first rest
    else .error (.illegal 1)

/-- A step of the shifted form of JIS X 0213, in which two characters of ASCII are replaced. -/
def shiftedPlanesStep (old : Bool) : Step Unit := fun _ first rest =>
  match katakana? first with
  | some code => single code
  | none =>
    if first = 0x5C then single 0xA5
    else if first = 0x7E then single 0x203E
    else if first < 128 then single first
    else if isShiftedLead first then
      pairUnless
        (fun a b => (unshifted? a b).any fun (row, column) => isLater old (row + 33) column)
        (shiftedPlanes? old) first rest
    else .error (.illegal 1)

/-- The characters at two bytes of code page 932. Some rows are for private use. -/
def codePage932Pair? (a b : Nat) : Option (List Char) :=
  let shifted := unshifted? a b
  codePage932.pair? a b <|>
    (if a ≤ 0xEA then shifted.bind fun (row, column) => jisX0208.pair? (row + 33) column
    else if 0xF0 ≤ a && a ≤ 0xF9 then
      shifted.map fun _ =>
        [Char.ofNat (0xE000 + 188 * (a - 0xF0) + (if b < 0x80 then b - 0x40 else b - 0x41))]
    else none)

def codePage932Step : Step Unit := fun _ first rest =>
  match katakana? first with
  | some code => single code
  | none =>
    if first ≤ 0x80 then single first
    else if first = 0xA0 then single 0xF8F0
    else if 0xFD ≤ first then single (0xF8F1 + (first - 0xFD))
    else pair codePage932Pair? first rest

/-- A step of an extended encoding of Japanese, given how pairs are read and the characters of
triples after a mark. -/
def extendedJapaneseStep (readPair : Nat → List Nat → Except Misreading (Reading Unit))
    (triple? : Nat → Nat → Option (List Char)) : Step Unit :=
  fun _ first rest =>
    if first < 128 then single first
    else
      match first, rest with
      | 0x8E, second :: _ => known 1 ((katakana? second).map fun code => [Char.ofNat code])
      | 0x8F, second :: third :: _ => known 2 (triple? second third)
      | 0x8F, _ => .error .incomplete
      | first, rest => readPair first rest

/-- A function of 7-bit codes at bytes above 127. -/
def atHigh (find? : Nat → Nat → Option (List Char)) (a b : Nat) : Option (List Char) :=
  if 128 ≤ a && 128 ≤ b then find? (a - 128) (b - 128) else none

/-- A step of the extended encoding of JIS X 0208 and JIS X 0212. -/
def eucJapaneseStep : Step Unit :=
  extendedJapaneseStep (pair jisX0208.highPair?) jisX0212.highPair?

/-- A step of the extended encoding of JIS X 0213. -/
def eucPlanesStep (old : Bool) : Step Unit :=
  extendedJapaneseStep
    (pairUnless (fun a b => 128 ≤ a && 128 ≤ b && isLater old (a - 128) (b - 128))
      (atHigh (firstPlane? old)))
    fun a b => atHigh (secondPlane? old) a b <|> jisX0212.highPair? a b

/-- The initial letters of syllables among the letters of KS X 1001. -/
def initialLetters : List Nat :=
  [1, 2, 4, 7, 8, 9, 17, 18, 19, 21, 22, 23, 24, 25, 26, 27, 28, 29, 30]

/-- The final letters of syllables among the letters of KS X 1001. -/
def finalLetters : List Nat :=
  [1, 2, 3, 4, 5, 6, 7, 9, 10, 11, 12, 13, 14, 15, 16, 17, 18, 20, 21, 22, 23, 24, 26, 27, 28, 29,
    30]

/-- The syllable of three letters, counted from 0; the final one is counted from 1. -/
def syllable (initial vowel final : Nat) : Char :=
  Char.ofNat (0xAC00 + 588 * initial + 28 * vowel + final)

def spelledSyllable? : List Nat → Option (List Char)
  | [0xA4, initial, 0xA4, vowel, 0xA4, final] => do
    let initial ← if 0xA0 ≤ initial then initialLetters.idxOf? (initial - 0xA0) else none
    let vowel ← if 0xBF ≤ vowel && vowel ≤ 0xD3 then some (vowel - 0xBF) else none
    let final ←
      if final = 0xD4 then some 0
      else if 0xA0 ≤ final then (finalLetters.idxOf? (final - 0xA0)).map (· + 1)
      else none
    return [syllable initial vowel final]
  | _ => none

/-- A step of the extended encoding of KS X 1001. A filler starts a spelled syllable. -/
def eucKoreanStep : Step Unit := fun _ first rest =>
  match first, rest with
  | 0xA4, 0xD4 :: letters =>
    if letters.length < 6 then .error .incomplete else known 7 (spelledSyllable? (letters.take 6))
  | first, rest => asciiOrPair ksX1001.highPair? () first rest

/-- The number of the pair among those of code page 949 that KS X 1001 lacks. -/
def hangulCell? (a b : Nat) : Option Nat := do
  let column ←
    if 0x41 ≤ b && b ≤ 0x5A then some (b - 0x41)
    else if 0x61 ≤ b && b ≤ 0x7A then some (b - 0x61 + 26)
    else if 0x81 ≤ b && b ≤ 0xFE then some (b - 0x81 + 52)
    else none
  if 0x81 ≤ a && a ≤ 0xA0 then some (178 * (a - 0x81) + column)
  else if 0xA1 ≤ a && a ≤ 0xC6 && column < 84 then some (178 * 32 + 84 * (a - 0xA1) + column)
  else none

def codePage949Step (syllables : Array Char) : Step Unit :=
  asciiOrPair fun a b =>
    ksX1001.highPair? a b <|> (hangulCell? a b).bind fun i => (syllables[i]?).map ([·])

/-- A part of a combined syllable: none, or a letter by its number. -/
inductive SyllablePart where
  | filler
  | letter (n : Nat)

/-- The initial letter with a 5-bit number. -/
def combinedInitial? (n : Nat) : Option SyllablePart :=
  if n = 1 then some .filler else if 2 ≤ n && n ≤ 20 then some (.letter (n - 2)) else none

/-- The vowel with a 5-bit number. -/
def combinedVowel? (n : Nat) : Option SyllablePart :=
  if n = 2 then some .filler
  else if 3 ≤ n && n ≤ 29 && 2 ≤ n % 8 then some (.letter (n - 3 - 2 * (n / 8)))
  else none

/-- The final letter with a 5-bit number. -/
def combinedFinal? (n : Nat) : Option SyllablePart :=
  if n = 1 then some .filler
  else if 2 ≤ n && n ≤ 17 then some (.letter (n - 1))
  else if 19 ≤ n && n ≤ 29 then some (.letter (n - 2))
  else none

/-- The character of three parts of a syllable. A letter may stand alone. -/
def combined? : SyllablePart → SyllablePart → SyllablePart → Option Char
  | .filler, .filler, .filler => some '\u3000'
  | .letter i, .filler, .filler => (initialLetters[i]?).map fun n => Char.ofNat (0x3130 + n)
  | .filler, .letter v, .filler => some (Char.ofNat (0x314F + v))
  | .filler, .filler, .letter f => (finalLetters[f - 1]?).map fun n => Char.ofNat (0x3130 + n)
  | .letter i, .letter v, .filler => some (syllable i v 0)
  | .letter i, .letter v, .letter f => some (syllable i v f)
  | .letter _, .filler, .letter _ | .filler, .letter _, .letter _ => none

/-- The characters at two bytes of the combining encoding of Korean. -/
def johabPair? (a b : Nat) : Option (List Char) :=
  if a < 0xD8 then do
    let initial ← combinedInitial? (a / 4 % 32)
    let vowel ← combinedVowel? ((8 * a + b / 32) % 32)
    let final ← combinedFinal? (b % 32)
    return [← combined? initial vowel final]
  else if a = 0xDF || 0xF9 < a || b < 0x31 || (0x80 ≤ b && b < 0x91) || b % 128 = 127 ||
      (a = 0xDA && 0xA1 ≤ b && b ≤ 0xD3) then none
  else
    let row := (if a < 0xE0 then 2 * (a + 256 - 0xD9) else 2 * a + 256 - 0x197) % 256
    let cell := if b < 0x91 then b - 0x31 else b - 0x43
    if cell < 94 then ksX1001.pair? ((row + 33) % 256) (cell + 33)
    else ksX1001.pair? ((row + 34) % 256) (cell - 94 + 33)

/-- The number of the pair among those of GBK for the ideographs that GB 2312 lacks. -/
def ideographCell? (a b : Nat) : Option Nat := do
  let column ←
    if 0x40 ≤ b && b ≤ 0x7E then some (b - 0x40)
    else if 0x80 ≤ b && b ≤ 0xFE then some (b - 0x41)
    else none
  if 0x81 ≤ a && a ≤ 0xA0 then some (190 * (a - 0x81) + column)
  else if 0xAA ≤ a && a ≤ 0xFE && column < 96 then some (190 * 32 + 96 * (a - 0xAA) + column)
  else none

/-- The characters at two bytes of GBK, given the ideographs that GB 2312 lacks. -/
def gbkPair? (ideographs : Array Char) (a b : Nat) : Option (List Char) :=
  gbkSymbols.pair? a b <|> gb2312.highPair? a b <|>
    (ideographCell? a b).bind fun i => (ideographs[i]?).map ([·])

/-- The character for private use at two bytes of GB 18030. -/
def privatePair? (a b : Nat) : Option (List Char) :=
  let code? : Option Nat :=
    if 0xA1 ≤ a && a ≤ 0xA7 && 0x40 ≤ b && b ≤ 0xA0 && b ≠ 0x7F then
      some (0xE4C6 + 96 * (a - 0xA1) + (if b < 0x7F then b - 0x40 else b - 0x41))
    else if 0xAA ≤ a && a ≤ 0xAF && 0xA1 ≤ b && b ≤ 0xFE then
      some (0xE000 + 94 * (a - 0xAA) + (b - 0xA1))
    else if 0xF8 ≤ a && a ≤ 0xFE && 0xA1 ≤ b && b ≤ 0xFE then
      some (0xE234 + 94 * (a - 0xF8) + (b - 0xA1))
    else none
  code?.map fun code => [Char.ofNat code]

/-- The character of four bytes of GB 18030 beyond the basic plane. -/
def supplementary? (a b c d : Nat) : Option (List Char) :=
  if 0x90 ≤ a && a ≤ 0xFE && 0x81 ≤ c && c ≤ 0xFE && 0x30 ≤ d && d ≤ 0x39 then
    let code := 0x10000 + (10 * (a - 0x90) + (b - 0x30)) * 1260 + 10 * (c - 0x81) + (d - 0x30)
    if code ≤ 0x10FFFF then some [Char.ofNat code] else none
  else none

/-- A step of GB 18030, given the ideographs that GB 2312 lacks. A digit after the first byte makes
a sequence of four. In a text that is stored in UTF-8 no such sequence is complete, so that those of
the basic plane are left out. -/
def gb18030Step (ideographs : Array Char) : Step Unit := fun _ first rest =>
  if first < 128 then single first
  else
    match rest with
    | second :: others =>
      if 0x30 ≤ second && second ≤ 0x39 then
        match others with
        | third :: fourth :: _ => known 3 (supplementary? first second third fourth)
        | _ => .error .incomplete
      else
        known 1 (gbkPair? ideographs first second <|> gb18030Symbols.pair? first second <|>
          privatePair? first second)
    | [] => .error .incomplete

def codePage950Pair? (a b : Nat) : Option (List Char) :=
  codePage950.pair? a b <|> big5.pair? a b

/-- The codes of the supplementary character set of Hong Kong that stand for two characters. -/
def hkscsPairs : List (Nat × String) :=
  [(0x8862, "Ê\u0304"), (0x8864, "Ê\u030c"), (0x88A3, "ê\u0304"), (0x88A5, "ê\u030c")]

/-- The characters at two bytes of Big5 with the supplement of Hong Kong, which has some rows to
itself. -/
def hongKongPair? (a b : Nat) : Option (List Char) :=
  let isOwn := (a = 0xC6 && 0xA1 ≤ b) || a = 0xC7 || a = 0xC8
  (if isOwn then none else big5.pair? a b) <|> hkscs.pair? a b <|>
    (hkscsPairs.lookup (256 * a + b)).map String.toList

end SymbolReference.Encoding

import SymbolReference.Encoding.Alphabet
import SymbolReference.Encoding.DoubleByte

namespace SymbolReference.Encoding

/-- A step of HZ, in which tildes switch between ASCII and GB 2312. -/
def hzStep : Step Bool := fun chinese first rest =>
  if first = 126 then
    match chinese, rest with
    | _, [] => .error .incomplete
    | false, 126 :: _ => .ok { chars := ['~'], more := 1, state := chinese }
    | false, 123 :: _ => .ok { chars := [], more := 1, state := true }
    | false, 10 :: _ => .ok { chars := [], more := 1, state := chinese }
    | true, 125 :: _ => .ok { chars := [], more := 1, state := false }
    | _, _ => .error (.illegal 1)
  else if 128 ≤ first then .error (.illegal 1)
  else if chinese then
    match rest with
    | [] => .error .incomplete
    | second :: _ =>
      match gb2312.pair? first second with
      | some chars => .ok { chars, more := 1, state := chinese }
      | none => .error (.illegal 1)
  else .ok { chars := [Char.ofNat first], state := chinese }

/-- A set of characters that an escape sequence can name. -/
inductive CharSet where
  | ascii
  | roman
  | katakana
  | latin
  | greek
  | jisX0208
  | jisX0212
  | ksX1001
  | gb2312
  | firstPlane (old : Bool)
  | secondPlane (old : Bool)
deriving Repr, DecidableEq

namespace CharSet

/-- The characters at two bytes, in a set that has pairs. -/
def pairs? : CharSet → Option (Nat → Nat → Option (List Char))
  | jisX0208 => some Encoding.jisX0208.pair?
  | jisX0212 => some Encoding.jisX0212.pair?
  | ksX1001 => some Encoding.ksX1001.pair?
  | gb2312 => some Encoding.gb2312.pair?
  | firstPlane old => some (firstPlane? old)
  | secondPlane old => some (secondPlane? old)
  | ascii | roman | katakana | latin | greek => none

/-- The character of one byte. Sets for a single character after a mark have none here. -/
def char? (set : CharSet) (b : Nat) : Option Char :=
  match set with
  | ascii => some (Char.ofNat b)
  | roman =>
    some (if b = 0x5C then '\u00A5' else if b = 0x7E then '\u203E' else Char.ofNat b)
  | katakana => (katakana? (b + 128)).map Char.ofNat
  | _ => none

/-- The codes of Greek characters that the set from before 2003 lacks. -/
def laterGreek : List Nat := [0xA4, 0xA5, 0xAA]

/-- The character of one byte after the mark for a single character. -/
def singleChar? (set : CharSet) (b : Nat) : Option Char :=
  match set with
  | latin => if b < 128 then some (Char.ofNat (b + 128)) else none
  | greek =>
    let code := if b < 128 then b + 128 else b - 128
    if code < 160 then some (Char.ofNat code)
    else if laterGreek.contains code then none
    else iso8859Part7.find? code
  | ascii => if b < 128 then some (Char.ofNat b) else none
  | _ => none

end CharSet

/-- How a set is named: by one final character, for a set of pairs or of single bytes. -/
structure SetName where
  pairs : Bool
  final : Char
deriving Repr, DecidableEq

/-- An encoding with escape sequences: the sets that can be named, whether there is a mark for a
single character of a third set, whether bytes shift to the second set, and whether a set may be
named as a revised one. -/
structure SwitchRules where
  name : String
  sets : List (SetName × CharSet)
  hasThird : Bool := false
  shifts : Bool := false
  revised : Bool := true

/-- The sets in use, and whether the second one is, or an unknown escape sequence goes on. -/
structure Switches where
  first : CharSet := .ascii
  second : CharSet := .ascii
  third : CharSet := .ascii
  shifted : Bool := false
  passing : Bool := false

inductive SetPlace where
  | first
  | second
  | third

namespace Switches

def put (s : Switches) (set : CharSet) : SetPlace → Switches
  | .first => { s with first := set }
  | .second => { s with second := set }
  | .third => { s with third := set }

end Switches

def isEscapeEnd (b : Nat) : Bool := 64 ≤ b && b ≤ 90

namespace SwitchRules

/-- The length of the escape sequence whose bytes from a number on are given. Sequences of 16 bytes
are too long. -/
def escapeLength (r : SwitchRules) : Nat → List Nat → Except Misreading Nat
  | i, [] => if 16 ≤ i then .error (.illegal 1) else .error .incomplete
  | i, b :: rest =>
    if 16 ≤ i then .error (.illegal 1)
    else if isEscapeEnd b then .ok (i + 1)
    else
      match r.revised, b, rest with
      | true, 38, 64 :: _ :: rest => escapeLength r (i + 3) rest
      | true, 38, [64] => escapeLength r (i + 3) []
      | _, _, rest => escapeLength r (i + 1) rest

/-- The set that an escape sequence names, given without its escape character, and its place. -/
def designation? (r : SwitchRules) (bytes : List Nat) : Option (SetName × SetPlace) :=
  match bytes.map Char.ofNat with
  | ['$', final] => some (⟨true, final⟩, .first)
  | ['(', final] => some (⟨false, final⟩, .first)
  | [')', final] => some (⟨false, final⟩, .second)
  | ['.', final] => if r.hasThird then some (⟨false, final⟩, .third) else none
  | ['$', '(', final] => some (⟨true, final⟩, .first)
  | ['$', ')', final] => some (⟨true, final⟩, .second)
  | [_, _, '\x1b', '$', 'B'] => if r.revised then some (⟨true, 'B'⟩, .first) else none
  | _ => none

/-- The set with a name. ASCII can always be named. -/
def set? (r : SwitchRules) (name : SetName) : Option CharSet :=
  if name = ⟨false, 'B'⟩ then some .ascii else r.sets.lookup name

/-- Switch as an escape sequence says, given what follows its escape character. -/
def designate (r : SwitchRules) (s : Switches) (rest : List Nat) :
    Except Misreading (Reading Switches) := do
  let length ← r.escapeLength 1 rest
  match r.designation? (rest.take (length - 1)) with
  | none => .error (.illegal length)
  | some (name, place) =>
    match r.set? name with
    | none => .error (.illegal length)
    | some set => .ok { chars := [], more := length - 1, state := s.put set place }

/-- A step inside the text: a character of the set in use. -/
def plainStep (s : Switches) (first : Nat) (rest : List Nat) :
    Except Misreading (Reading Switches) :=
  let set := if s.shifted then s.second else s.first
  match set.pairs?, rest with
  | none, _ =>
    match set.char? first with
    | some c => .ok { chars := [c], state := s }
    | none => .error (.illegal 1)
  | some _, [] => .error .incomplete
  | some find?, second :: _ =>
    match find? first second with
    | some chars => .ok { chars, more := 1, state := s }
    | none => .error (.illegal 2)

/-- A step of an encoding with escape sequences. The end of a line ends a shift. -/
def step (r : SwitchRules) : Step Switches := fun s first rest =>
  let bypass := fun s => .ok { chars := [Char.ofNat first], state := s }
  -- A sequence that is not understood is passed on up to its end.
  if s.passing then bypass { s with passing := !isEscapeEnd first }
  else
    match first with
    | 27 =>
      match rest.map Char.ofNat with
      | [] => .error .incomplete
      | mark :: others =>
        if "().$&".toList.contains mark then r.designate s rest
        else if r.hasThird && mark = 'N' then
          match others with
          | [] => .error .incomplete
          | c :: _ =>
            match s.third.singleChar? c.toNat with
            | some c => .ok { chars := [c], more := 2, state := s }
            | none => .error (if s.third = .roman then .internal else .illegal 3)
        else bypass { s with passing := true }
    | 15 => if r.shifts then .ok { chars := [], state := { s with shifted := false } } else bypass s
    | 14 => if r.shifts then .ok { chars := [], state := { s with shifted := true } } else bypass s
    | 10 => bypass { s with shifted := false }
    | first =>
      if first < 32 then bypass s
      else if 128 ≤ first then .error (.illegal 1)
      else plainStep s first rest

def japaneseSets : List (SetName × CharSet) :=
  [(⟨false, 'J'⟩, .roman), (⟨true, '@'⟩, .jisX0208), (⟨true, 'B'⟩, .jisX0208)]

/-- The plain encoding of Japanese. -/
def japanese : SwitchRules where
  name := "iso2022_jp"
  sets := japaneseSets

/-- Japanese with the supplementary characters. -/
def japanese1 : SwitchRules where
  name := "iso2022_jp_1"
  sets := (⟨true, 'D'⟩, .jisX0212) :: japaneseSets

/-- Japanese with Chinese and Korean characters and two European sets. -/
def japanese2 : SwitchRules where
  name := "iso2022_jp_2"
  sets :=
    [(⟨true, 'D'⟩, .jisX0212), (⟨true, 'C'⟩, .ksX1001), (⟨true, 'A'⟩, .gb2312),
      (⟨false, 'A'⟩, .latin), (⟨false, 'F'⟩, .greek)] ++ japaneseSets
  hasThird := true

/-- Japanese with the planes of JIS X 0213 in its old edition. -/
def japanese3 : SwitchRules where
  name := "iso2022_jp_3"
  sets := [(⟨true, 'B'⟩, .jisX0208), (⟨true, 'O'⟩, .firstPlane true),
    (⟨true, 'P'⟩, .secondPlane true)]

/-- Japanese with the planes of JIS X 0213 in the edition of 2004. -/
def japanese2004 : SwitchRules where
  name := "iso2022_jp_2004"
  sets := [(⟨true, 'B'⟩, .jisX0208), (⟨true, 'Q'⟩, .firstPlane false),
    (⟨true, 'P'⟩, .secondPlane false)]

/-- Japanese with the supplementary characters and narrow katakana. -/
def japaneseExtended : SwitchRules where
  name := "iso2022_jp_ext"
  sets := (⟨true, 'D'⟩, .jisX0212) :: (⟨false, 'I'⟩, .katakana) :: japaneseSets

def korean : SwitchRules where
  name := "iso2022_kr"
  sets := [(⟨true, 'C'⟩, .ksX1001)]
  shifts := true
  revised := false

end SwitchRules

end SymbolReference.Encoding

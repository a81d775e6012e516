import SymbolReference.Decimal.Reader
import SymbolReference.Text.Lines
import SymbolReference.Text.Lower
import SymbolReference.Text.Words

namespace SymbolReference.Terminal

/-- The attributes of a style in the order of the normal form, with their spellings. -/
def attributeSpellings : List (List String) :=
  [["bold", "b"], ["dim", "d"], ["italic", "i"], ["underline", "u"], ["blink"], ["blink2"],
    ["reverse", "r"], ["conceal", "c"], ["strike", "s"], ["underline2", "uu"], ["frame"],
    ["encircle"], ["overline", "o"]]

/-- The place of the attribute with a spelling in the order of the normal form. -/
def attributeIndex? (word : String) : Option Nat :=
  attributeSpellings.findIdx? fun spellings => spellings.contains word

def colourNames : List String := [
  "default", "black", "red", "green", "yellow", "blue", "magenta", "cyan", "white", "bright_black",
  "bright_red", "bright_green", "bright_yellow", "bright_blue", "bright_magenta", "bright_cyan",
  "bright_white", "grey0", "gray0", "navy_blue", "dark_blue", "blue3", "blue1", "dark_green",
  "deep_sky_blue4", "dodger_blue3", "dodger_blue2", "green4", "spring_green4", "turquoise4",
  "deep_sky_blue3", "dodger_blue1", "green3", "spring_green3", "dark_cyan", "light_sea_green",
  "deep_sky_blue2", "deep_sky_blue1", "spring_green2", "cyan3", "dark_turquoise", "turquoise2",
  "green1", "spring_green1", "medium_spring_green", "cyan2", "cyan1", "dark_red", "deep_pink4",
  "purple4", "purple3", "blue_violet", "orange4", "grey37", "gray37", "medium_purple4",
  "slate_blue3", "royal_blue1", "chartreuse4", "dark_sea_green4", "pale_turquoise4", "steel_blue",
  "steel_blue3", "cornflower_blue", "chartreuse3", "cadet_blue", "sky_blue3", "steel_blue1",
  "pale_green3", "sea_green3", "aquamarine3", "medium_turquoise", "chartreuse2", "sea_green2",
  "sea_green1", "aquamarine1", "dark_slate_gray2", "dark_magenta", "dark_violet", "purple",
  "light_pink4", "plum4", "medium_purple3", "slate_blue1", "yellow4", "wheat4", "grey53", "gray53",
  "light_slate_grey", "light_slate_gray", "medium_purple", "light_slate_blue", "dark_olive_green3",
  "dark_sea_green", "light_sky_blue3", "sky_blue2", "dark_sea_green3", "dark_slate_gray3",
  "sky_blue1", "chartreuse1", "light_green", "pale_green1", "dark_slate_gray1", "red3",
  "medium_violet_red", "magenta3", "dark_orange3", "indian_red", "hot_pink3", "medium_orchid3",
  "medium_orchid", "medium_purple2", "dark_goldenrod", "light_salmon3", "rosy_brown", "grey63",
  "gray63", "medium_purple1", "gold3", "dark_khaki", "navajo_white3", "grey69", "gray69",
  "light_steel_blue3", "light_steel_blue", "yellow3", "dark_sea_green2", "light_cyan3",
  "light_sky_blue1", "green_yellow", "dark_olive_green2", "dark_sea_green1", "pale_turquoise1",
  "deep_pink3", "magenta2", "hot_pink2", "orchid", "medium_orchid1", "orange3", "light_pink3",
  "pink3", "plum3", "violet", "light_goldenrod3", "tan", "misty_rose3", "thistle3", "plum2",
  "khaki3", "light_goldenrod2", "light_yellow3", "grey84", "gray84", "light_steel_blue1",
  "yellow2", "dark_olive_green1", "honeydew2", "light_cyan1", "red1", "deep_pink2", "deep_pink1",
  "magenta1", "orange_red1", "indian_red1", "hot_pink", "dark_orange", "salmon1", "light_coral",
  "pale_violet_red1", "orchid2", "orchid1", "orange1", "sandy_brown", "light_salmon1",
  "light_pink1", "pink1", "plum1", "gold1", "navajo_white1", "misty_rose1", "thistle1", "yellow1",
  "light_goldenrod1", "khaki1", "wheat1", "cornsilk1", "grey100", "gray100", "grey3", "gray3",
  "grey7", "gray7", "grey11", "gray11", "grey15", "gray15", "grey19", "gray19", "grey23", "gray23",
  "grey27", "gray27", "grey30", "gray30", "grey35", "gray35", "grey39", "gray39", "grey42",
  "gray42", "grey46", "gray46", "grey50", "gray50", "grey54", "gray54", "grey58", "gray58",
  "grey62", "gray62", "grey66", "gray66", "grey70", "gray70", "grey74", "gray74", "grey78",
  "gray78", "grey82", "gray82", "grey85", "gray85", "grey89", "gray89", "grey93", "gray93"
]

/-- The text between two texts, if it begins with the one and ends with the other. -/
def between? (start ending : String) (s : List Char) : Option (List Char) :=
  if Text.startsWith s start.toList && Text.endsWith (s.drop start.length) ending.toList then
    some ((s.drop start.length).take (s.length - start.length - ending.length))
  else none

/-- Whether a character is a digit of base sixteen in lower case. -/
def isLowerHex (c : Char) : Bool :=
  c.isDigit || ('a' ≤ c && c ≤ 'f')

/-- Whether a text in lower case is a colour: a name, six digits of base sixteen after a number
sign, a number up to 255, or three such numbers. The three numbers are read as whole numbers and
may fail to be any. -/
def isColour (s : List Char) : Except Decimal.NumberError Bool :=
  if colourNames.contains (String.ofList s) then .ok true
  else
    match s with
    | '#' :: digits => .ok (digits.length = 6 && digits.all isLowerHex)
    | s =>
      match between? "color(" ")" s, between? "rgb(" ")" s with
      | some digits, _ =>
        .ok (!digits.isEmpty && digits.length ≤ 3 && digits.all Char.isDigit &&
          Decimal.ofDigits digits ≤ 255)
      | none, some inner =>
        let numbers := Text.fields ',' inner
        if numbers.length = 3 &&
            inner.all fun c => c = ',' || (Text.decimalDigit? c).isSome then do
          let read ← numbers.mapM (Decimal.readWhole 10)
          return read.all (· ≤ 255)
        else .ok false
      | none, none => .ok false

/-- A style. Attributes are given by their place in the order of the normal form. -/
structure Style where
  attributes : List (Nat × Bool) := []
  colour : Option (List Char) := none
  background : Option (List Char) := none
  link : Option (List Char) := none

namespace Style

/-- The style that words describe, if they describe one, beginning with the style described so
far. -/
def describedFrom (s : Style) : List (List Char) → Except Decimal.NumberError (Option Style)
  | [] => .ok (some s)
  | word :: others =>
    match String.ofList (Text.lower word), others with
    -- These words need another one after them.
    | "on", [] | "not", [] | "link", [] => .ok none
    | "on", next :: others => do
      if ← isColour (Text.lower next) then
        describedFrom { s with background := some (Text.lower next) } others
      else return none
    | "not", next :: others =>
      match attributeIndex? (String.ofList next) with
      | some index => describedFrom { s with attributes := s.attributes ++ [(index, false)] } others
      | none => .ok none
    | "link", next :: others => describedFrom { s with link := some next } others
    | lowered, others =>
      match attributeIndex? lowered with
      | some index => describedFrom { s with attributes := s.attributes ++ [(index, true)] } others
      | none => do
        if ← isColour lowered.toList then
          describedFrom { s with colour := some lowered.toList } others
        else return none

/-- The words of the attribute at a place, if the style has it. What is said last counts. -/
def attributeWords (s : Style) (index : Nat) : List String :=
  match s.attributes.reverse.lookup index, (attributeSpellings.getD index []).head? with
  | some true, some word => [word]
  | some false, some word => ["not", word]
  | _, _ => []

def normal (s : Style) : List Char :=
  let attributes := (List.range attributeSpellings.length).flatMap s.attributeWords
  let words := attributes.map String.toList ++ s.colour.toList ++
    (s.background.map fun colour => ["on".toList, colour]).getD [] ++
    (s.link.map fun link => ["link".toList, link]).getD []
  if words.isEmpty then "none".toList else Text.joined [' '] words

end Style

def normalName (name : List Char) : Except Decimal.NumberError (List Char) := do
  let trimmed := Text.trim name
  if String.ofList trimmed = "none" then return trimmed
  match ← ({} : Style).describedFrom (Text.words name) with
  | some style => return style.normal
  | none => return Text.lower trimmed

end SymbolReference.Terminal

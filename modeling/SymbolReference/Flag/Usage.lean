import SymbolReference.Flag.Basic
import SymbolReference.Text.Fill
import SymbolReference.Text.Lines
import SymbolReference.Text.Pattern

namespace SymbolReference

/-- A page that flags are shown on: its width, the name of the program, and a description. -/
structure FlagPage where
  width : Int
  program : List Char
  description : List Char

namespace Flag

variable {α : Type}

def usage (f : Flag α) : List Char :=
  let first := (f.spellings.headD "").toList
  let shown :=
    match f.action with
    | .store _ placeholder => first ++ ' ' :: placeholder.toList
    | .dual _ => (String.intercalate " | " f.spellings).toList
    | .help | .set _ _ => first
  '[' :: shown ++ [']']

/-- A flag as it is shown in the help. -/
def invocation (f : Flag α) : List Char :=
  let shown :=
    match f.action with
    | .store _ placeholder => f.spellings.map fun s => s ++ " " ++ placeholder
    | .help | .dual _ | .set _ _ => f.spellings
  (String.intercalate ", " shown).toList

end Flag

namespace FlagPage

def opensGroup (c : Char) : Bool := c = '[' || c = '('

def closesGroup (c : Char) : Bool := c = ']' || c = ')'

/-- A usage without the space after the beginning of a group. -/
def tightStarts : List Char → List Char
  | [] => []
  | [c] => [c]
  | c :: d :: rest =>
    if opensGroup c && d = ' ' then c :: tightStarts rest else c :: tightStarts (d :: rest)

/-- A usage without the space before the end of a group. -/
def tightEnds : List Char → List Char
  | [] => []
  | [c] => [c]
  | c :: d :: rest =>
    if c = ' ' && closesGroup d then d :: tightEnds rest else c :: tightEnds (d :: rest)

/-- A usage without empty groups, by at most `fuel` characters. -/
def withoutEmptyGroups : Nat → List Char → List Char
  | 0, s => s
  | _ + 1, [] => []
  | fuel + 1, c :: rest =>
    match opensGroup c, rest.dropWhile (· = ' ') with
    | true, d :: others =>
      if closesGroup d then withoutEmptyGroups fuel others else c :: withoutEmptyGroups fuel rest
    | _, _ => c :: withoutEmptyGroups fuel rest

/-- A usage without the parentheses around what is no choice, by at most `fuel` characters. -/
def withoutParentheses : Nat → List Char → List Char
  | 0, s => s
  | _ + 1, [] => []
  | fuel + 1, c :: rest =>
    let reach := rest.takeWhile (· ≠ '|')
    if c = '(' && reach.contains ')' then
      let inner := (reach.reverse.dropWhile (· ≠ ')')).drop 1 |>.reverse
      inner ++ withoutParentheses fuel (rest.drop (inner.length + 1))
    else c :: withoutParentheses fuel rest

def usageLine {α : Type} (flags : List (Flag α)) : List Char :=
  let line := tightEnds (tightStarts (Text.joined [' '] (flags.map Flag.usage)))
  let line := withoutEmptyGroups line.length line
  Text.trim (withoutParentheses line.length line)

/-- The parts of a usage: groups up to the first end before white space, and words. -/
def usagePart : Text.Pattern :=
  let group := fun (start stop : String) =>
    Text.Pattern.sequence [Text.Pattern.text start, .few (.char (· ≠ '\n')),
      .oneOrMore (Text.Pattern.text stop), .atEndOr Text.isBlank]
  .noted (Text.Pattern.oneOf [group "(" ")", group "[" "]",
    .oneOrMore (.char fun c => !Text.isBlank c)])

/-- The parts of a usage, unless the parts with spaces between them are something else. -/
def usageParts? (usage : List Char) : Option (List (List Char)) :=
  let parts := (usagePart.notedIn usage).map fun e => (usage.drop e.start).take (e.stop - e.start)
  if Text.joined [' '] parts = usage then some parts else none

/-- Lines of parts with spaces between them. `line` is the line that is being filled, last part
first, and `taken` is its length. -/
def partLines (width : Int) (indent : Nat) (line : List (List Char)) (taken : Int) :
    List (List Char) → List (List Char)
  | [] => if line.isEmpty then [] else [List.replicate indent ' ' ++ Text.joined [' '] line.reverse]
  | part :: others =>
    if width < taken + 1 + part.length && !line.isEmpty then
      (List.replicate indent ' ' ++ Text.joined [' '] line.reverse) ::
        partLines width indent [part] (indent + part.length) others
    else partLines width indent (part :: line) (taken + part.length + 1) others

/-- What stands before the usage. -/
def usageStart : List Char := "usage: ".toList

/-- The usage on several lines. The flags follow the name of the program if that is short, and have
lines of their own otherwise. -/
def brokenUsage (p : FlagPage) (parts : List (List Char)) : List Char :=
  let start := usageStart.length + p.program.length
  let lines :=
    if (4 * start : Int) ≤ 3 * p.width then
      let indent := start + 1
      match partLines p.width indent [] (usageStart.length - 1) (p.program :: parts) with
      | [] => []
      | first :: others => first.drop indent :: others
    else p.program :: partLines p.width usageStart.length [] (usageStart.length - 1) parts
  Text.joined ['\n'] lines

/-- The usage of flags. It cannot be shown if it has to be broken and is not made of its parts. -/
def usage? {α : Type} (p : FlagPage) (flags : List (Flag α)) : Option (List Char) :=
  let line := usageLine flags
  let usage := Text.joined [' '] ([p.program, line].filter fun s => !s.isEmpty)
  let broken :=
    if p.width < usageStart.length + usage.length then (usageParts? line).map p.brokenUsage
    else some usage
  broken.map fun usage => usageStart ++ usage ++ "\n\n".toList

/-- The column in which what flags do is shown, at most. -/
def helpColumnLimit (p : FlagPage) : Nat :=
  min 24 (max (p.width - 20) 4).toNat

/-- The spaces before an entry of the help. -/
def entryIndent : Nat := 2

def helpColumn {α : Type} (p : FlagPage) (flags : List (Flag α)) : Nat :=
  let longest := (flags.map fun f => f.invocation.length + entryIndent).foldl max 0
  min (longest + 2) p.helpColumnLimit

def entry {α : Type} (p : FlagPage) (column : Nat) (f : Flag α) : List Char :=
  let room := column - entryIndent - 2
  let header := f.invocation
  let start := List.replicate entryIndent ' ' ++ header
  let width := (max (p.width - column) 11).toNat
  let lines := Text.filled width (Text.trim (Text.singleSpaced f.help.toList))
  let indent := List.replicate column ' '
  let rest := fun (lines : List (List Char)) => lines.flatMap fun line => indent ++ line ++ ['\n']
  if header.length ≤ room then
    match lines with
    | [] => start ++ ['\n']
    | first :: others =>
      start ++ List.replicate (room - header.length) ' ' ++ "  ".toList ++ first ++ '\n' :: rest others
  else start ++ '\n' :: rest lines

/-- A text in which no more than two line feeds follow each other. `run` is the number of those just
before it. -/
def withoutLongBreaks (run : Nat) : List Char → List Char
  | [] => []
  | c :: rest =>
    if c ≠ '\n' then c :: withoutLongBreaks 0 rest
    else if run < 2 then c :: withoutLongBreaks (run + 1) rest
    else withoutLongBreaks run rest

/-- A text without line feeds around it, and one at its end. -/
def finished (s : List Char) : List Char :=
  let s := (withoutLongBreaks 0 s).dropWhile (· = '\n')
  (s.reverse.dropWhile (· = '\n')).reverse ++ ['\n']

def usageText? {α : Type} (p : FlagPage) (flags : List (Flag α)) : Option (List Char) :=
  (p.usage? flags).map finished

def help? {α : Type} (p : FlagPage) (flags : List (Flag α)) : Option (List Char) :=
  (p.usage? flags).map fun usage =>
    let column := p.helpColumn flags
    finished (usage ++ p.description ++ "\n\n\noptions:\n".toList ++
      flags.flatMap (p.entry column) ++ ['\n'])

end FlagPage

end SymbolReference

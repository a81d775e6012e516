import SymbolReference.Terminal.Markup
import SymbolReference.Terminal.Part
import SymbolReference.Terminal.Pictograph

namespace SymbolReference.Terminal

open Text (Extent)

/-- The controls that are never printed: bell, backspace, vertical tab, form feed and carriage
return. -/
def isDropped (c : Char) : Bool :=
  [7, 8, 11, 12, 13].contains c.toNat

/-- The characters of a plain text that are printed. Named pictographs are drawn. -/
def shownPart (s : List Char) : List Char :=
  (draw s).filter fun c => !isDropped c

/-- The characters of a marked-up text that are printed. -/
def shown (s : List Char) : List Char :=
  (plainParts s).flatMap shownPart

/-- The extents of what is printed inside of tags. `depth` is the number of open tags; `start` and
`position` are the ends of what was printed since the last tag. -/
def taggedFrom (depth start position : Nat) : List Segment → List Extent
  | [] => if depth = 0 then [] else [⟨start, position⟩]
  | .text s :: others =>
    taggedFrom depth start (position + (shownPart (unescapeBrackets s)).length) others
  | .tag _ content :: others =>
    let here := if depth = 0 then [] else [⟨start, position⟩]
    let depth := if content.head? = some '/' then depth - 1 else depth + 1
    here ++ taggedFrom depth position position others

/-- The extents of what is printed inside of the tags of a marked-up text. -/
def tagged (s : List Char) : List Extent :=
  if s.contains '[' then taggedFrom 0 0 0 (segments s) else []

/-- What is printed, and the error that ended the printing if there was one. -/
structure Printout where
  text : List Char := []
  error : Option CutError := none
deriving Repr, DecidableEq

namespace Printout

/-- Go on with what is printed next, unless the printing has ended. -/
def andThen (p next : Printout) : Printout :=
  if p.error.isSome then p else { next with text := p.text ++ next.text }

/-- Lines as they are printed, each cut to a width and ended by a line feed. A line that cannot be
cut ends the printing. -/
def ofLines (width : Nat) : List (List (List Char)) → Printout
  | [] => {}
  | line :: others =>
    match fitParts width line with
    | .error e => { error := some e }
    | .ok parts => { text := parts.flatten ++ ['\n'] : Printout }.andThen (ofLines width others)

/-- Lines that were filled, as they are printed. Nothing is printed before all of them are. -/
def ofFilled (width : Nat) : Except CutError (List (List (List Char))) → Printout
  | .error e => { error := some e }
  | .ok lines => ofLines width lines

/-- Nothing changes by going on with nothing. -/
@[simp] theorem andThen_empty (p : Printout) : p.andThen {} = p := by
  cases p with
  | mk text error => cases error <;> simp [andThen]

end Printout

/-- A marked-up text as it is printed at a width. Without any width nothing is printed. -/
def print (width : Nat) (s : List Char) : Printout :=
  if width = 0 then {}
  else
    let text := shown s
    .ofFilled width (partedLines width (partStarts (tagged s ++ highlights text) text) text)

end SymbolReference.Terminal

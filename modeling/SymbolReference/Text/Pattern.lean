import SymbolReference.Text.Identifier

namespace SymbolReference.Text

/-- A part of a text: the position of its first character, and the position after its last one. -/
structure Extent where
  start : Nat
  stop : Nat
deriving Repr, DecidableEq

/-- A place in a text: its position, the character before it, the text after it, and the parts that
were noted on the way to it, last one first. -/
structure Place where
  position : Nat := 0
  previous : Option Char := none
  rest : List Char
  noted : List Extent := []
deriving Repr, DecidableEq

namespace Place

/-- The place after the next character, if that is accepted. -/
def step? (accepts : Char → Bool) (p : Place) : Option Place :=
  match p.rest with
  | [] => none
  | c :: rest =>
    if accepts c then
      some { p with position := p.position + 1, previous := some c, rest }
    else none

/-- Whether a place lies between a character of a word and something else. -/
def isWordEdge (p : Place) : Bool :=
  p.previous.any isWordChar != p.rest.head?.any isWordChar

/-- Note the part from a position up to a place, unless it is empty. -/
def note (start : Nat) (p : Place) : Place :=
  if start < p.position then { p with noted := ⟨start, p.position⟩ :: p.noted } else p

/-- The places after any number of steps, most steps first, and at most `fuel` of them. -/
def most (step : Place → List Place) : Nat → Place → List Place
  | 0, p => [p]
  | fuel + 1, p => (step p).flatMap (most step fuel) ++ [p]

/-- The places after any number of steps, fewest steps first, and at most `fuel` of them. -/
def fewest (step : Place → List Place) : Nat → Place → List Place
  | 0, p => [p]
  | fuel + 1, p => p :: (step p).flatMap (fewest step fuel)

/-- What follows the first of the places after any number of steps from which something does, most
steps first, and at most `fuel` of them. -/
def tryMost (step : (Place → Option Place) → Place → Option Place) (next : Place → Option Place) :
    Nat → Place → Option Place
  | 0, p => next p
  | fuel + 1, p => step (tryMost step next fuel) p <|> next p

/-- What follows the first of the places after any number of steps from which something does, fewest
steps first, and at most `fuel` of them. -/
def tryFewest (step : (Place → Option Place) → Place → Option Place) (next : Place → Option Place) :
    Nat → Place → Option Place
  | 0, p => next p
  | fuel + 1, p => next p <|> step (tryFewest step next fuel) p

end Place

/-- A pattern. `notAfter` and `atEndOr` match nothing: not after a refused character, and only where
the text ends or an accepted character follows. -/
inductive Pattern where
  | nothing
  | char (accepts : Char → Bool)
  | both (first second : Pattern)
  | either (first second : Pattern)
  | many (repeated : Pattern)
  | few (repeated : Pattern)
  | notAfter (refused : Char → Bool)
  | atEndOr (accepted : Char → Bool)
  | wordEdge (expected : Bool)
  | noted (part : Pattern)

namespace Pattern

/-- The places up to which a pattern matches from a place on, in the order of preference. Every
repetition takes a character, so there are no more of them than characters. -/
def ends : Pattern → Place → List Place
  | nothing, p => [p]
  | char accepts, p => (p.step? accepts).toList
  | both first second, p => (ends first p).flatMap (ends second)
  | either first second, p => ends first p ++ ends second p
  | many repeated, p => Place.most (ends repeated) p.rest.length p
  | few repeated, p => Place.fewest (ends repeated) p.rest.length p
  | notAfter refused, p => if p.previous.any refused then [] else [p]
  | atEndOr accepted, p => if p.rest.head?.all accepted then [p] else []
  | wordEdge expected, p => if p.isWordEdge == expected then [p] else []
  | noted part, p => (ends part p).map (Place.note p.position)

/-- What follows the first place up to which a pattern matches and from which something does. Only as
many places are looked at as it takes. -/
def first? : Pattern → (Place → Option Place) → Place → Option Place
  | nothing, next, p => next p
  | char accepts, next, p => (p.step? accepts).bind next
  | both first second, next, p => first? first (first? second next) p
  | either first second, next, p => first? first next p <|> first? second next p
  | many repeated, next, p => Place.tryMost (first? repeated) next p.rest.length p
  | few repeated, next, p => Place.tryFewest (first? repeated) next p.rest.length p
  | notAfter refused, next, p => if p.previous.any refused then none else next p
  | atEndOr accepted, next, p => if p.rest.head?.all accepted then next p else none
  | wordEdge expected, next, p => if p.isWordEdge == expected then next p else none
  | noted part, next, p => first? part (fun found => next (found.note p.position)) p

/-- A search through the places of places is a search through the places in which each is searched
through. -/
theorem findSome?_flatMap {α β γ : Type} (g : α → List β) (f : β → Option γ) (l : List α) :
    (l.flatMap g).findSome? f = l.findSome? fun x => (g x).findSome? f := by
  induction l with
  | nil => rfl
  | cons x l ih =>
    rw [List.flatMap_cons, List.findSome?_append, ih, List.findSome?_cons]
    cases (g x).findSome? f <;> rfl

/-- A search after most steps first goes through the places in their order. -/
theorem tryMost_eq {step : Place → List Place}
    {tryStep : (Place → Option Place) → Place → Option Place}
    (h : ∀ next p, tryStep next p = (step p).findSome? next) (next : Place → Option Place) :
    ∀ fuel p, Place.tryMost tryStep next fuel p = (Place.most step fuel p).findSome? next
  | 0, p => by simp [Place.tryMost, Place.most]
  | fuel + 1, p => by
    have ih := funext (tryMost_eq h next fuel)
    rw [Place.tryMost, Place.most, h, List.findSome?_append, findSome?_flatMap, ih]
    simp

/-- A search after fewest steps first goes through the places in their order. -/
theorem tryFewest_eq {step : Place → List Place}
    {tryStep : (Place → Option Place) → Place → Option Place}
    (h : ∀ next p, tryStep next p = (step p).findSome? next) (next : Place → Option Place) :
    ∀ fuel p, Place.tryFewest tryStep next fuel p = (Place.fewest step fuel p).findSome? next
  | 0, p => by simp [Place.tryFewest, Place.fewest]
  | fuel + 1, p => by
    have ih := funext (tryFewest_eq h next fuel)
    rw [Place.tryFewest, Place.fewest, h, List.findSome?_cons, findSome?_flatMap, ih]
    cases next p <;> simp

/-- The search finds the first of all places up to which a pattern matches. -/
theorem first?_eq (p : Pattern) (next : Place → Option Place) (place : Place) :
    p.first? next place = (p.ends place).findSome? next := by
  induction p generalizing next place with
  | nothing => simp [first?, ends]
  | char accepts => cases h : place.step? accepts <;> simp [first?, ends, h]
  | both first second ih₁ ih₂ =>
    rw [first?, ends, ih₁, findSome?_flatMap]
    congr 1
    exact funext fun found => ih₂ next found
  | either first second ih₁ ih₂ => simp [first?, ends, ih₁, ih₂, List.findSome?_append]
  | many repeated ih => exact tryMost_eq ih next _ place
  | few repeated ih => exact tryFewest_eq ih next _ place
  | notAfter refused => rw [first?, ends]; split <;> simp
  | atEndOr accepted => rw [first?, ends]; split <;> simp
  | wordEdge expected => rw [first?, ends]; split <;> simp
  | noted part ih => rw [first?, ends, ih, List.findSome?_map]; rfl

/-- Patterns one after the other. -/
def sequence : List Pattern → Pattern
  | [] => nothing
  | [last] => last
  | first :: others => both first (sequence others)

/-- The first of some patterns that matches. -/
def oneOf : List Pattern → Pattern
  | [] => char fun _ => false
  | [last] => last
  | first :: others => either first (oneOf others)

def text (s : String) : Pattern :=
  sequence (s.toList.map fun c => char (· = c))

/-- One of the characters of a text. -/
def charOf (s : String) : Pattern :=
  char fun c => s.toList.contains c

def optional (p : Pattern) : Pattern :=
  either p nothing

/-- A pattern at least once. -/
def oneOrMore (p : Pattern) : Pattern :=
  both p (many p)

def times (count : Nat) (p : Pattern) : Pattern :=
  sequence (List.replicate count p)

/-- A pattern at most a number of times. -/
def upTo : Nat → Pattern → Pattern
  | 0, _ => nothing
  | count + 1, p => optional (both p (upTo count p))

/-- A pattern at least once and at most a number of times. -/
def someUpTo (count : Nat) (p : Pattern) : Pattern :=
  both p (upTo (count - 1) p)

/-- The end of the match from a place on, if there is one that takes characters. -/
def end? (p : Pattern) (place : Place) : Option Place :=
  (p.first? some place).filter fun found => place.position < found.position

/-- The parts that the matches of a pattern from a place on note, in at most `fuel` steps. The
search goes on after a match, and after the next character where there is none. -/
def notedFrom (p : Pattern) : Nat → Place → List Extent
  | 0, _ => []
  | fuel + 1, place =>
    match p.end? place with
    | some found => found.noted.reverse ++ notedFrom p fuel { found with noted := [] }
    | none =>
      match place.step? fun _ => true with
      | some next => notedFrom p fuel next
      | none => []

/-- The parts of a text that the matches of a pattern note. -/
def notedIn (p : Pattern) (s : List Char) : List Extent :=
  p.notedFrom (s.length + 1) { rest := s }

end Pattern

end SymbolReference.Text

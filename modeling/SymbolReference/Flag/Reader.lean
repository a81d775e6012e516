import SymbolReference.Flag.Basic
import SymbolReference.Text.Digits
import SymbolReference.Text.Quoted
import SymbolReference.Value.Printer

namespace SymbolReference

/-- Why arguments cannot be read. -/
inductive ArgumentError where
  | ambiguous (argument : String) (spellings : List String)
  | valueMissing (flag : String)
  | valueIgnored (flag value : String)
  | unrecognized (arguments : List String)
deriving Repr, DecidableEq

def ArgumentError.message : ArgumentError → String
  | ambiguous argument spellings =>
    "ambiguous option: " ++ argument ++ " could match " ++ String.intercalate ", " spellings
  | valueMissing flag => "argument " ++ flag ++ ": expected one argument"
  | valueIgnored flag value =>
    "argument " ++ flag ++ ": ignored explicit argument " ++ Text.quote value
  | unrecognized arguments => "unrecognized arguments: " ++ String.intercalate " " arguments

/-- Why a value cannot be an argument. -/
inductive ForeignArgument where
  | notSubscriptable (v : Value)
  | notInText (v : Value)
  | notHashable (v : Value)
  | missingKey
  | notJoined (index : Nat) (v : Value)

def ForeignArgument.message : ForeignArgument → String
  | notSubscriptable v => "'" ++ v.typeName ++ "' object is not subscriptable"
  | notInText v => "'in <string>' requires string as left operand, not " ++ v.typeName
  | notHashable v => "unhashable type: '" ++ v.typeName ++ "'"
  | missingKey => "0"
  | notJoined index v =>
    "sequence item " ++ String.ofList (Decimal.natDigits index) ++
      ": expected str instance, " ++ v.typeName ++ " found"

/-- What ends the reading of arguments: an error, a value that cannot be one, or the wish for
help. -/
inductive ReadingStop where
  | error (e : ArgumentError)
  | foreign (e : ForeignArgument)
  | help

/-- What an argument is by itself: a flag in one of its spellings, perhaps with a value, a flag that
is not known, a plain argument, or the divider before plain arguments. -/
inductive ArgumentForm (α : Type) where
  | flag (f : Flag α) (spelling : String) (value : Option String)
  | unknown
  | plain
  | divider

/-- Whether a text is a negative number. A line feed may follow it. -/
def isNegativeNumber (s : List Char) : Bool :=
  let isDigit := fun c => (Text.decimalDigit? c).isSome
  let s := if s.getLast? = some '\n' then s.dropLast else s
  match s with
  | '-' :: rest =>
    let whole := rest.takeWhile isDigit
    match rest.drop whole.length with
    | [] => !whole.isEmpty
    | '.' :: fraction => !fraction.isEmpty && fraction.all isDigit
    | _ => false
  | _ => false

/-- The parts of a text before and after its first equals sign. -/
def splitAtEquals (s : List Char) : Option (String × String) :=
  let name := s.takeWhile (· ≠ '=')
  match s.drop name.length with
  | [] => none
  | _ :: value => some (String.ofList name, String.ofList value)

namespace FlagTable

variable {α : Type}

/-- The flags that a text with one sign at its front may stand for: a short one with what follows
it, or one whose spelling the text begins. -/
def shortMatches (t : FlagTable α) (s : List Char) : List (Flag α × String × Option String) :=
  t.flags.flatMap fun f => f.spellings.filterMap fun spelling =>
    if spelling.toList = s.take 2 then some (f, spelling, some (String.ofList (s.drop 2)))
    else if Text.startsWith spelling.toList s then some (f, spelling, none)
    else none

/-- What a text that starts with a sign is. A negative number is plain, unless a flag looks like
one, and so is a text with a space. -/
def signedForm (t : FlagTable α) (s : List Char) : Except ArgumentError (ArgumentForm α) :=
  let text := String.ofList s
  match t.find? text with
  | some f => .ok (.flag f text none)
  | none =>
    match s with
    | [] | [_] => .ok .plain
    | _ :: second :: _ =>
      match (splitAtEquals s).bind fun (name, value) =>
          (t.find? name).map fun f => ArgumentForm.flag f name (some value) with
      | some form => .ok form
      | none =>
        match if t.signs.contains second then [] else t.shortMatches s with
        | [(f, spelling, value)] => .ok (.flag f spelling value)
        | [] =>
          let hasNumbers := t.spellings.any fun spelling => isNegativeNumber spelling.toList
          .ok (if (isNegativeNumber s && !hasNumbers) || s.contains ' ' then .plain else .unknown)
        | found => .error (.ambiguous text (found.map fun m => m.2.1))

/-- What an argument that is no text is. Only the beginning of a sequence is looked at. -/
def foreignForm (t : FlagTable α) (v : Value) : Except ForeignArgument (ArgumentForm α) :=
  if v.isFalsy then .ok .plain
  else
    match v with
    | .list (first :: others) | .tuple (first :: others) =>
      match first.text? with
      | none => .error (.notInText first)
      | some text =>
        if !((List.range (t.signs.length + 1)).any fun n =>
            Text.startsWith (t.signs.drop n) text.toList) then .ok .plain
        else
          match v with
          | .list _ => .error (.notHashable v)
          | _ => if others.isEmpty then .ok .plain else .error (.notInText v)
    | .bytes _ | .range _ _ _ => .error (.notInText (.int 0))
    | .dict _ => .error .missingKey
    | .cycle _ => .error (.notInText v)
    | v => .error (.notSubscriptable v)

def form (t : FlagTable α) (v : Value) : Except ReadingStop (ArgumentForm α) :=
  match v.text? with
  | none => (t.foreignForm v).mapError .foreign
  | some text =>
    match text.toList with
    | [] => .ok .plain
    | c :: rest =>
      if t.signs.contains c then (t.signedForm (c :: rest)).mapError .error else .ok .plain

/-- Arguments with what they are. Behind the divider all are plain. -/
def forms (t : FlagTable α) : List Value → Except ReadingStop (List (Value × ArgumentForm α))
  | [] => .ok []
  | v :: rest =>
    if v.text? = some "--" then .ok ((v, .divider) :: rest.map fun v => (v, .plain))
    else do return (v, ← t.form v) :: (← t.forms rest)

/-- What a flag does: it sets a target or asks for help. A divider as a value leaves an empty
list. -/
def effect (f : Flag α) (spelling : String) (value : Value) : Option (α × Value) :=
  match f.action with
  | .help => none
  | .store target _ => some (target, if value.text? = some "--" then .list [] else value)
  | .dual target => some (target, .bool !(spelling.startsWith Flag.denial))
  | .set target value => some (target, .bool value)

/-- The flags in one argument, which begins with a flag and has a value, with their spellings, and
the value of the last one if it is among them. Several short ones may share an argument. -/
def shared (t : FlagTable α) :
    List Char → Flag α → String → Except ArgumentError
      (List (Flag α × String) × Option String)
  | value, f, spelling =>
    if f.takesValue then .ok ([(f, spelling)], some (String.ofList value))
    else
      match value, spelling.toList with
      | c :: rest, sign :: second :: _ =>
        if t.signs.contains second then
          .error (.valueIgnored f.name (String.ofList (c :: rest)))
        else
          let next := String.ofList [sign, c]
          match t.find? next with
          | none => .error (.valueIgnored f.name (String.ofList (c :: rest)))
          | some g =>
            if rest.isEmpty then .ok ([(f, spelling), (g, next)], none)
            else do
              let (found, value) ← t.shared rest g next
              return ((f, spelling) :: found, value)
      | value, _ => .error (.valueIgnored f.name (String.ofList value))

/-- The effects of flags, of which the last may have a value. A wish for help ends the reading. -/
def effects (found : List (Flag α × String)) (value : Value) :
    Except ReadingStop (List (α × Value)) :=
  found.mapM fun (f, spelling) =>
    match effect f spelling value with
    | some e => .ok e
    | none => .error .help

/-- Read arguments whose forms are known: what they set, and what is left over. -/
def readForms (t : FlagTable α) : List (Value × ArgumentForm α) →
    Except ReadingStop (List (α × Value) × List Value)
  | [] => .ok ([], [])
  | (v, form) :: rest =>
    match form with
    | .plain | .divider | .unknown => do
      let (settings, extra) ← t.readForms rest
      return (settings, v :: extra)
    | .flag f spelling value => do
      let (found, value) ←
        match value with
        | some value => (t.shared value.toList f spelling).mapError ReadingStop.error
        | none => .ok ([(f, spelling)], none)
      match (found.getLast?.filter fun last => last.1.takesValue && value.isNone), rest with
      | none, rest => do
        let here ← effects found (.str (value.getD ""))
        let (settings, extra) ← t.readForms rest
        return (here ++ settings, extra)
      | some _, (next, .plain) :: rest => do
        let here ← effects found next
        let (settings, extra) ← t.readForms rest
        return (here ++ settings, extra)
      | some last, _ => .error (.error (.valueMissing last.1.name))

def leftOver : Nat → List Value → Except ForeignArgument (List String)
  | _, [] => .ok []
  | index, v :: rest =>
    match v.text? with
    | none => .error (.notJoined index v)
    | some text => do return text :: (← leftOver (index + 1) rest)

/-- Read arguments: what they set, in their order. Nothing may be left over, unless that is
passed over. -/
def read (t : FlagTable α) (ignoreUnknown : Bool) (arguments : List Value) :
    Except ReadingStop (List (α × Value)) := do
  let (settings, extra) ← t.readForms (← t.forms arguments)
  if extra.isEmpty || ignoreUnknown then return settings
  else
    let texts ← (leftOver 0 extra).mapError ReadingStop.foreign
    throw (.error (.unrecognized texts))

end FlagTable

end SymbolReference

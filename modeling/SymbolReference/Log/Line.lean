import SymbolReference.Json.Writer
import SymbolReference.Log.State
import SymbolReference.Text.Order

namespace SymbolReference.Log

inductive Line where
  | record (fields : List (String × JsonValue))
  | text (line : String)

/-- Why a message cannot be logged: a field has the name of an argument of the function that logs
it, a stack or exception is no text, or a key cannot name a member of a record. -/
inductive MessageError where
  | takenName (function name : String)
  | notText (v : Value)
  | strangeKey (v : Value)

def MessageError.message : MessageError → String
  | takenName function name =>
    function ++ "() got multiple values for argument " ++ Text.quote name
  | notText v => "can only concatenate str (not \"" ++ v.typeName ++ "\") to str"
  | strangeKey v => "keys must be str, int, float, bool or None, not " ++ v.typeName

/-- Whether a text has to be quoted to be read as one value: it has a space, a tab, a line end, an
equals sign or a quote. -/
def needsQuotes (s : List Char) : Bool :=
  s.any fun c => [' ', '\t', '=', '\r', '\n', '"', '\''].contains c

/-- The value of a field in a line of text. -/
def shownValue (v : Value) : List Char :=
  match v.text? with
  | some s => if needsQuotes s.toList then Text.quoted s.toList else s.toList
  | none => v.render

def shownField (name : String) (v : Value) : List Char :=
  name.toList ++ '=' :: shownValue v

/-- A text filled up with spaces to a width in characters. -/
def padTo (width : Nat) (s : List Char) : List Char :=
  s ++ List.replicate (width - s.length) ' '

def bareField? (fields : Mapping Value) (name : String) : Option (List Char) :=
  (fields.get? name).map fun v => v.bare.toList

/-- The names that have a place of their own in a line of text or below it. -/
def placedNames : List String :=
  ["", "timestamp", "level", "event", "logger", "stack", "exception", "exc_info"]

def otherFields (fields : Mapping Value) : List (String × Value) :=
  (fields.toList.filter fun entry => !placedNames.contains entry.1).mergeSort (nameLe Prod.fst)

/-- The line of a record: a field without a name, the time, the level, the event, the logger and the
other fields. -/
def headLine (fields : Mapping Value) : List Char :=
  let placed :=
    [(fields.get? "").map (shownField ""),
      bareField? fields "timestamp",
      (bareField? fields "level").map fun level => '[' :: padTo 9 level ++ [']'],
      (bareField? fields "event").map (padTo 30),
      (bareField? fields "logger").map fun logger => '[' :: logger ++ [']']].filterMap id
  let others := (otherFields fields).map fun entry => shownField entry.1 entry.2
  Text.joined [' '] ((placed ++ others).filter fun part => !part.isEmpty)

def lowerText? (fields : Mapping Value) (name : String) :
    Except MessageError (Option (List Char)) :=
  match fields.get? name with
  | none | some .none => .ok none
  | some v =>
    match v.text? with
    | some s => .ok (some s.toList)
    | none => .error (.notText v)

/-- The line between a stack and an exception. -/
def divider : List Char := "\n\n".toList ++ List.replicate 79 '=' ++ ['\n']

/-- A record as lines of text. A divider follows the stack when an exception is at hand or was asked
for. One that was asked for is never at hand. -/
def linesOf (fields : Mapping Value) : Except MessageError (List Char) := do
  let asked := (fields.get? "exc_info").any fun v => !v.isFalsy
  let raised := (fields.get? "exception").any fun v =>
    match v with
    | .none => false
    | _ => true
  let stack ←
    match ← lowerText? fields "stack" with
    | none => pure []
    | some s => pure ('\n' :: s ++ (if asked || raised then divider else []))
  let exception ←
    if asked then pure []
    else
      match ← lowerText? fields "exception" with
      | none => pure []
      | some s => pure ('\n' :: s)
  return headLine fields ++ stack ++ exception

/-- The first field of a message whose name is one of some names. -/
def Message.fieldAmong? (m : Message) (names : List String) : Option String :=
  (m.fields.find? fun entry => names.contains entry.1).map Prod.fst

/-- Fail if a field has the name of an argument of a function. -/
def Message.refuse (m : Message) (function : String) (names : List String) :
    Except MessageError Unit :=
  match m.fieldAmong? names with
  | some name => .error (.takenName function name)
  | none => .ok ()

namespace State

/-- The line of a message, if it is logged. A message that is dropped must not name arguments of the
function that drops it. -/
def line? (s : State) (stamp : String) (m : Message) : Except MessageError (Option Line) := do
  if s.admits m then
    m.refuse "_make_filtering_bound_logger.<locals>.make_method.<locals>.meth" ["self", "event"]
    m.refuse "BoundLoggerBase._proxy_to_logger" ["method_name"]
    let fields := s.record stamp m
    if s.json then
      match Value.strangeKeyIn? (fields.toList.map Prod.snd) with
      | some key => .error (.strangeKey key)
      | none =>
        return some (.record (fields.toList.map fun entry => (entry.1, entry.2.recorded)))
    else return some (.text (String.ofList (← linesOf fields)))
  else
    m.refuse "_nop" ["self", "event"]
    return none

/-- The state after a step, and the lines it writes. A step that fails changes nothing. -/
def step (stamp : String) (s : State) : Step → State × Except MessageError (List Line)
  | .emit m => (s, (s.line? stamp m).map Option.toList)
  | .note line => (s, .ok [.text line])
  | .enter bindings =>
    match bindings.find? fun entry => entry.1 = "self" with
    | some entry => (s, .error (.takenName "LogContext.__init__" entry.1))
    | none => (s.enter bindings, .ok [])
  | .leave => (s.leave, .ok [])

/-- The state after several steps, and the lines they write. A step that fails writes nothing. -/
def run (stamp : String) (s : State) : List Step → State × List Line
  | [] => (s, [])
  | next :: others =>
    let (s, written) := s.step stamp next
    let (s, rest) := s.run stamp others
    match written with
    | .ok lines => (s, lines ++ rest)
    | .error _ => (s, rest)

end State

def Line.write : Line → String
  | record fields => String.ofList (JsonValue.object fields).write
  | text line => line

end SymbolReference.Log

import SymbolReference.Log.Level
import SymbolReference.Mapping
import SymbolReference.Value.Printer

namespace SymbolReference.Log

structure Message where
  level : Level
  logger : Option String := none
  event : String
  fields : List (String × Value) := []

/-- What is logged: messages, lines that are written as they are, and scopes that bind values for
the messages inside them. -/
inductive Step where
  | emit (message : Message)
  | note (line : String)
  | enter (bindings : List (String × Value))
  | leave

/-- How records are written and which messages are dropped. -/
structure Configuration where
  threshold : Nat := Level.info.severity
  json : Bool := true
  stamped : Bool := false

/-- The state of logging. There is no configuration before logging is configured for the first
time. -/
structure State where
  service : String := "symref"
  configuration : Option Configuration := some {}
  bound : Mapping Value := Mapping.empty
  scopes : List (List String) := []

/-- A request to configure logging. Whether records are JSON may be left to where they go. -/
structure Options where
  level : String := "INFO"
  json : Option Bool := none
  service : String := "symref"
  stamped : Bool := true

namespace State

/-- The state before logging is configured. -/
def initial : State where
  configuration := none

/-- The least severity that is logged. Everything is logged before logging is configured. -/
def threshold (s : State) : Nat :=
  (s.configuration.map Configuration.threshold).getD 0

/-- Whether records are written as JSON. Before logging is configured they are text. -/
def json (s : State) : Bool :=
  s.configuration.any Configuration.json

/-- Configure logging. The service is named first, so its name also changes when the level is not
known; everything else then stays as it was. Records that do not go to a terminal are JSON unless
asked otherwise. -/
def configure (s : State) (options : Options) (onTerminal : Bool := false) :
    State × Except LevelError Unit :=
  let named := { s with service := options.service }
  match readThreshold options.level with
  | .error e => (named, .error e)
  | .ok threshold =>
    let configuration :=
      { threshold, json := options.json.getD !onTerminal, stamped := options.stamped }
    ({ named with configuration := some configuration }, .ok ())

/-- Bind values for the messages of a scope. -/
def enter (s : State) (bindings : List (String × Value)) : State :=
  { s with
    bound := s.bound.update bindings
    scopes := bindings.map Prod.fst :: s.scopes }

/-- Leave the innermost scope. -/
def leave (s : State) : State :=
  match s.scopes with
  | [] => s
  | names :: outer => { s with bound := names.foldl Mapping.erase s.bound, scopes := outer }

def admits (s : State) (m : Message) : Bool :=
  s.threshold ≤ m.level.severity

end State

/-- Write a name unless it is present. -/
def insertNew (m : Mapping Value) (name : String) (value : Value) : Mapping Value :=
  if (m.get? name).isSome then m else m.insert name value

/-- The name under which a logger is bound until the record is made. -/
def loggerKey : String := "logger_name"

/-- The fields of a message itself: the bound logger, its own fields, and the event. -/
def Message.own (m : Message) : Mapping Value :=
  let logger := match m.logger with
    | none => []
    | some name => [(loggerKey, Value.str name)]
  (Mapping.ofList (logger ++ m.fields)).insert "event" (.str m.event)

/-- The fields with those values of the scopes that are not among them. The ellipsis stands for an
unbound name. -/
def withBound (fields bound : Mapping Value) : Mapping Value :=
  bound.toList.foldl
    (fun built entry =>
      match entry.2 with
      | .ellipsis => built
      | v => insertNew built entry.1 v)
    fields

def withoutStackRequest (fields : Mapping Value) : Mapping Value :=
  match fields.get? "stack_info" with
  | some v => if v.isFalsy then fields.erase "stack_info" else fields
  | none => fields

/-- The fields with the bound logger under its final name, unless that name is taken. -/
def withLogger (fields : Mapping Value) : Mapping Value :=
  let rest := fields.erase loggerKey
  match fields.get? loggerKey with
  | none | some .none => rest
  | some name => insertNew rest "logger" name

namespace State

/-- The fields of a message with the values of the scopes and its level, which is written over a
field of this name. -/
def leveled (s : State) (own : Mapping Value) (m : Message) : Mapping Value :=
  withoutStackRequest ((withBound own s.bound).insert "level" (.str m.level.name))

/-- The record of a message at the time that the stamp gives. The time is written over a field of
this name; the service gives way to one. Before logging is configured there is no service, and the
logger stays under the name that it is bound by. -/
def record (s : State) (stamp : String) (m : Message) : Mapping Value :=
  match s.configuration with
  | none => (s.leveled m.own m).insert "timestamp" (.str stamp)
  | some c =>
    let own := if c.stamped then m.own.insert "timestamp" (.str stamp) else m.own
    insertNew (withLogger (s.leveled own m)) "service.name" (.str s.service)

end State

end SymbolReference.Log

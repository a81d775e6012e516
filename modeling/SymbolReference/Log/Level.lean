import SymbolReference.Text.Quoted
import SymbolReference.Text.Upper

namespace SymbolReference.Log

/-- How serious a message is. -/
inductive Level where
  | debug
  | info
  | warning
  | error
  | critical
deriving Repr, DecidableEq, Inhabited

namespace Level

def name : Level → String
  | debug => "debug"
  | info => "info"
  | warning => "warning"
  | error => "error"
  | critical => "critical"

def ofName? : String → Option Level
  | "debug" => some debug
  | "info" => some info
  | "warning" => some warning
  | "error" => some error
  | "critical" => some critical
  | _ => none

theorem ofName?_name (level : Level) : ofName? level.name = some level := by
  cases level <;> rfl

def severity : Level → Nat
  | debug => 10
  | info => 20
  | warning => 30
  | error => 40
  | critical => 50

end Level

/-- The least severity that is logged, by its name in capitals. Two levels have a second name, and
one name lets everything through. -/
def thresholdNamed? : String → Option Nat
  | "NOTSET" => some 0
  | "DEBUG" => some Level.debug.severity
  | "INFO" => some Level.info.severity
  | "WARN" | "WARNING" => some Level.warning.severity
  | "ERROR" => some Level.error.severity
  | "FATAL" | "CRITICAL" => some Level.critical.severity
  | _ => none

/-- Why a name is no threshold: nothing has this name, or what has it is a text or a table. Names
are in capitals. -/
inductive LevelError where
  | unknown (name : String)
  | text (content : String)
  | table
deriving Repr, DecidableEq

/-- The message about a name that is no threshold. -/
def LevelError.message : LevelError → String
  | unknown name => "module 'logging' has no attribute '" ++ name ++ "'"
  | text content => Text.quote content
  | table => "unhashable type: 'dict'"

/-- The threshold with a given name, in any case. -/
def readThreshold (name : String) : Except LevelError Nat :=
  let capitals := String.ofList (Text.upper name.toList)
  match thresholdNamed? capitals with
  | some threshold => .ok threshold
  | none =>
    match capitals with
    | "BASIC_FORMAT" => .error (.text "%(levelname)s:%(name)s:%(message)s")
    | "_STYLES" => .error .table
    | _ => .error (.unknown capitals)

end SymbolReference.Log

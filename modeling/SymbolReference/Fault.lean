import SymbolReference.Decimal.Reader
import SymbolReference.Mapping
import SymbolReference.Value.Printer

namespace SymbolReference

/-- The categories by which callers tell failures apart. -/
inductive Category where
  | validation
  | usage
  | source
  | config
  | internal
deriving Repr, DecidableEq

namespace Category

def label : Category → String
  | validation => "VALIDATION"
  | usage => "USAGE"
  | source => "SOURCE"
  | config => "CONFIG"
  | internal => "INTERNAL"

def ofLabel? : String → Option Category
  | "VALIDATION" => some validation
  | "USAGE" => some usage
  | "SOURCE" => some source
  | "CONFIG" => some config
  | "INTERNAL" => some internal
  | _ => none

theorem ofLabel?_label (category : Category) : ofLabel? category.label = some category := by
  cases category <;> rfl

def unknownMessage (text : String) : String :=
  Text.quote text ++ " is not a valid ErrorCategory"

end Category

inductive FaultKind where
  | general
  | invalidSymbol
  | symbolInvariant
  | documentNotBuilt
  | introspection
  | config
  | missingConfig
  | invalidConfig
deriving Repr, DecidableEq

namespace FaultKind

def name : FaultKind → String
  | general => "SymrefError"
  | invalidSymbol => "InvalidSymbolError"
  | symbolInvariant => "SymbolInvariantError"
  | documentNotBuilt => "DocumentNotBuiltError"
  | introspection => "IntrospectionError"
  | config => "ConfigError"
  | missingConfig => "MissingConfigError"
  | invalidConfig => "InvalidConfigError"

def ofName? : String → Option FaultKind
  | "SymrefError" => some general
  | "InvalidSymbolError" => some invalidSymbol
  | "SymbolInvariantError" => some symbolInvariant
  | "DocumentNotBuiltError" => some documentNotBuilt
  | "IntrospectionError" => some introspection
  | "ConfigError" => some config
  | "MissingConfigError" => some missingConfig
  | "InvalidConfigError" => some invalidConfig
  | _ => none

theorem ofName?_name (kind : FaultKind) : ofName? kind.name = some kind := by
  cases kind <;> rfl

def category : FaultKind → Category
  | general => .internal
  | invalidSymbol | symbolInvariant => .validation
  | documentNotBuilt => .usage
  | introspection => .source
  | config | missingConfig | invalidConfig => .config

/-- A kind of fault and the more general kinds it belongs to, from the special to the general. -/
def lineage : FaultKind → List FaultKind
  | general => [general]
  | config => [config, general]
  | missingConfig => [missingConfig, config, general]
  | invalidConfig => [invalidConfig, config, general]
  | kind => [kind, general]

end FaultKind

/-- What led to a fault: a look-up of a missing key, whose text is shown in quotes, or something
else with its own text. -/
inductive Cause where
  | missingKey (key : String)
  | other (text : String)
deriving Repr, DecidableEq

def Cause.text : Cause → String
  | .missingKey key => Text.quote key
  | .other text => text

/-- A failure that is reported to the caller. -/
structure Fault where
  kind : FaultKind
  message : String
  category : Category
  context : Mapping Value := Mapping.empty
  cause : Option Cause := none

namespace Fault

def of (kind : FaultKind) (message : String) (context : List (String × Value) := []) : Fault where
  kind := kind
  message := message
  category := kind.category
  context := Mapping.ofList context

def withContext (fault : Fault) (entries : List (String × Value)) : Fault :=
  { fault with context := fault.context.update entries }

/-- A message, or a text in its place when it is absent or empty. -/
def messageOr (message : Option String) (fallback : String) : String :=
  match message with
  | none => fallback
  | some text => if text.isEmpty then fallback else text

def missingConfig (key : String) (message : Option String := none) : Fault :=
  of .missingConfig (messageOr message ("Missing configuration: " ++ key))
    [("config_key", .str key)]

/-- The fault of a configuration value that cannot be used. -/
def invalidConfig (key : String) (value : Value) (message : Option String := none)
    (cause : Option Cause := none) : Fault :=
  { of .invalidConfig
      (messageOr message ("Invalid configuration for " ++ key ++ ": " ++ value.written))
      [("config_key", .str key), ("config_value", .str value.bare)] with cause := cause }

/-- The names of what is recorded of a fault. The context is left out when it is empty, the cause
when there is none. -/
def summaryKeys (fault : Fault) : List String :=
  ["error_type", "message", "category"] ++
    (if fault.context.toList.isEmpty then [] else ["context"]) ++
    (if fault.cause.isSome then ["cause"] else [])

/-- The short form of a fault for developers. -/
def display (fault : Fault) : String :=
  fault.kind.name ++ "(" ++ Text.quote fault.message ++ ", category=" ++ fault.category.label ++ ")"

end Fault

/-- Why there is no document or page: a fault, or a number that cannot be written. The number is not
reported as a fault. -/
inductive Failure where
  | fault (f : Fault)
  | number (e : Decimal.NumberError)

end SymbolReference

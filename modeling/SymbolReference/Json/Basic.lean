import SymbolReference.Value.Printer

namespace SymbolReference

/-- A value of the JSON format. Objects keep the order of their members. -/
inductive JsonValue where
  | null
  | bool (b : Bool)
  | int (n : Int)
  | float (x : Float)
  | text (s : String)
  | array (items : List JsonValue)
  | object (members : List (String × JsonValue))
deriving Inhabited

/-- A floating-point number. The values that are no finite numbers have names. -/
def jsonFloat (x : Float) : List Char :=
  match Decimal.parts x with
  | .nan => "NaN".toList
  | .infinite negative => (if negative then "-Infinity" else "Infinity").toList
  | _ => Decimal.write floatLayout x

/-- The name of a member for a key of a dictionary. Texts stand for themselves, the other keys for
their JSON text. -/
def Value.memberName : Value → String
  | .none => "null"
  | .bool b => if b then "true" else "false"
  | .str s => s
  | .kind k => k.label
  | .float x => String.ofList (jsonFloat x)
  | v => v.written

/-- Whether a key of a dictionary can name a member: it is a text, a number, a truth value or
nothing. -/
def Value.namesMember : Value → Bool
  | .none | .bool _ | .int _ | .float _ | .str _ | .kind _ => true
  | _ => false

mutual

/-- The first key inside a value that can name no member. -/
def Value.strangeKey? : Value → Option Value
  | .list items | .tuple items => Value.strangeKeyIn? items
  | .dict entries => Value.strangeKeyOf? entries
  | _ => Option.none

/-- The first key inside the values of a list that can name no member. -/
def Value.strangeKeyIn? : List Value → Option Value
  | [] => Option.none
  | item :: others => item.strangeKey? <|> Value.strangeKeyIn? others

/-- The first key of a dictionary or inside its values that can name no member. -/
def Value.strangeKeyOf? : List (Value × Value) → Option Value
  | [] => Option.none
  | (key, value) :: others =>
    if key.namesMember then value.strangeKey? <|> Value.strangeKeyOf? others else some key

end

mutual

/-- The recorded form of a value. Texts, numbers and collections in order keep their form; what the
format cannot hold is recorded as its written form. -/
def Value.recorded : Value → JsonValue
  | .none => .null
  | .bool b => .bool b
  | .int n => .int n
  | .float x => .float x
  | .str s => .text s
  | .kind k => .text k.label
  | .list items | .tuple items => .array (Value.recordedItems items)
  | .dict entries => .object (Value.recordedEntries entries)
  | .complex re im => .text (Value.complex re im).written
  | .bytes data => .text (Value.bytes data).written
  | .set items => .text (Value.set items).written
  | .frozenset items => .text (Value.frozenset items).written
  | .range start stop step => .text (Value.range start stop step).written
  | .ellipsis => .text Value.ellipsis.written
  | .day d => .text (Value.day d).written
  | .moment m => .text (Value.moment m).written
  | .cycle keyed => .text (Value.cycle keyed).written
  | .object o => .text o.text

def Value.recordedItems : List Value → List JsonValue
  | [] => []
  | item :: others => item.recorded :: Value.recordedItems others

/-- The members of an object that records a dictionary. -/
def Value.recordedEntries : List (Value × Value) → List (String × JsonValue)
  | [] => []
  | (key, value) :: others => (key.memberName, value.recorded) :: Value.recordedEntries others

end

end SymbolReference

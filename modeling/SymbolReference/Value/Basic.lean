import SymbolReference.Symbol.Kind
import SymbolReference.Value.Calendar

namespace SymbolReference

/-- An object that is not looked into: the number that tells it from other objects, the name of its
type and its text. -/
structure Opaque where
  number : Nat
  typeName : String
  text : String
deriving Repr, DecidableEq

/-- A value of the documented program. Dictionaries keep the order of insertion. `cycle` stands
for a collection inside itself: a list, or a dictionary when the flag is set. -/
inductive Value where
  | none
  | bool (b : Bool)
  | int (n : Int)
  | float (x : Float)
  | complex (re im : Float)
  | bytes (data : List UInt8)
  | str (s : String)
  | kind (k : Kind)
  | list (items : List Value)
  | tuple (items : List Value)
  | set (items : List Value)
  | frozenset (items : List Value)
  | dict (entries : List (Value × Value))
  | range (start stop step : Int)
  | ellipsis
  | day (d : Day)
  | moment (m : Moment)
  | cycle (keyed : Bool)
  | object (o : Opaque)
deriving Inhabited

namespace Value

/-- The text of a value that is a string; a kind counts as its label. -/
def text? : Value → Option String
  | str s => some s
  | kind k => some k.label
  | _ => Option.none

/-- The non-empty text of a value. Anything but a non-empty string has none. -/
def nonEmptyText? (v : Value) : Option String :=
  v.text?.filter fun s => !s.isEmpty

def typeName : Value → String
  | none => "NoneType"
  | bool _ => "bool"
  | int _ => "int"
  | float _ => "float"
  | complex _ _ => "complex"
  | bytes _ => "bytes"
  | str _ => "str"
  | kind _ => "SymbolKind"
  | list _ => "list"
  | tuple _ => "tuple"
  | set _ => "set"
  | frozenset _ => "frozenset"
  | dict _ => "dict"
  | range _ _ _ => "range"
  | ellipsis => "ellipsis"
  | day _ => "datetime.date"
  | moment _ => "datetime.datetime"
  | cycle keyed => if keyed then "dict" else "list"
  | object o => o.typeName

def typeDisplay : Value → String
  | kind _ => "<enum 'SymbolKind'>"
  | day _ => "<class 'datetime.date'>"
  | moment _ => "<class 'datetime.datetime'>"
  | v => "<class '" ++ v.typeName ++ "'>"

/-- Whether a value counts as false: nothing, zero, and the empty text or collection. -/
def isFalsy : Value → Bool
  | none => true
  | bool b => !b
  | int n => n == 0
  | float x => x == 0.0
  | complex re im => re == 0.0 && im == 0.0
  | bytes data => data.isEmpty
  | str s => s.isEmpty
  | list items | tuple items | set items | frozenset items => items.isEmpty
  | dict entries => entries.isEmpty
  | range start stop step =>
    if step > 0 then stop ≤ start else start ≤ stop
  | kind _ | ellipsis | day _ | moment _ | cycle _ | object _ => false

/-- The items of a value that can be gone through item by item. Of a range, whose items are all of
one type, the first ones stand for all. -/
def items? : Value → Option (List Value)
  | list items | tuple items | set items | frozenset items => some items
  | dict entries => some (entries.map Prod.fst)
  | bytes data => some (data.map fun byte => int byte.toNat)
  | str s => some (s.toList.map fun c => str c.toString)
  | kind k => some (k.label.toList.map fun c => str c.toString)
  | range start stop step =>
    some (((List.range 3).map fun (n : Nat) => start + step * Int.ofNat n).filter (fun n =>
      if step > 0 then n < stop else stop < n) |>.map int)
  | cycle _ => some [ellipsis]
  | none | bool _ | int _ | float _ | complex _ _ | ellipsis | day _ | moment _ | object _ =>
    Option.none

end Value

end SymbolReference

import SymbolReference.Text.Order
import SymbolReference.Value.Equality

namespace SymbolReference.Value

/-- The name of the type of a value, or of a part of it, that cannot be looked up because it may
change. -/
def unhashable? : Value → Option String
  | list _ => some "list"
  | set _ => some "set"
  | dict _ => some "dict"
  | cycle keyed => some (if keyed then "dict" else "list")
  | tuple items => unhashableIn? items
  | _ => Option.none
where
  /-- The first name among several values. -/
  unhashableIn? : List Value → Option String
    | [] => Option.none
    | v :: others => unhashable? v <|> unhashableIn? others

/-- Whether a whole number is less than a floating-point number. -/
def wholeBelow (n : Int) (x : Float) : Bool :=
  if x.isNaN then false
  else if x.isInf then 0.0 < x
  else
    let floor := x.floor
    match wholeFloat? floor with
    | some m => if x == floor then n < m else n ≤ m
    | Option.none => false

/-- Whether a floating-point number is less than a whole number. -/
def fractionBelow (x : Float) (n : Int) : Bool :=
  !x.isNaN && !wholeBelow n x && wholeFloat? x ≠ some n

/-- Whether one number is less than another. Complex numbers have no order. -/
def Number.less? : Number → Number → Option Bool
  | .whole m, .whole n => some (m < n)
  | .whole n, .fraction x => some (wholeBelow n x)
  | .fraction x, .whole n => some (fractionBelow x n)
  | .fraction x, .fraction y => some (x < y)
  | _, _ => Option.none

def isReal : Value → Bool
  | bool _ | int _ | float _ => true
  | _ => false

mutual

/-- Whether one value is less than another. Two values without an order give the names of their
types. -/
def less (a b : Value) : Except (String × String) Bool :=
  match a, b with
  | list as, list bs | tuple as, tuple bs => lessItems as bs
  | bytes as, bytes bs => .ok (decide (as.map UInt8.toNat < bs.map UInt8.toNat))
  | frozenset as, frozenset bs => .ok (as.length < bs.length && sameMembers false as bs)
  | a, b =>
    match a.text?, b.text? with
    | some s, some t => .ok (decide (codePoints s < codePoints t))
    | _, _ =>
      match a.isReal && b.isReal, number? a, number? b with
      | true, some m, some n => .ok ((m.less? n).getD false)
      | _, _, _ => .error (a.typeName, b.typeName)

/-- Whether one sequence is less than another: the first items that differ decide. -/
def lessItems : List Value → List Value → Except (String × String) Bool
  | [], [] => .ok false
  | [], _ :: _ => .ok true
  | _ :: _, [] => .ok false
  | a :: as, b :: bs => if same false a b then lessItems as bs else less a b

end

end SymbolReference.Value

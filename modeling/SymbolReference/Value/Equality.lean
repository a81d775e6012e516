import SymbolReference.Decimal.Shortest
import SymbolReference.Value.Basic

/-!
Numbers are equal across their types, so `True`, `1` and `1.0` are one value; a kind equals the
string of its label; sets and dictionaries are compared without regard to order. A value that is
not a number equals itself only where both occurrences are known to be the same object, which the
flag `shared` says. An object that is not looked into equals only itself.
-/

namespace SymbolReference.Value

/-- The integer that a finite floating-point number is equal to, if it is whole. -/
def wholeFloat? (x : Float) : Option Int :=
  match Decimal.Parts.ofBits x.toBits.toNat with
  | .zero _ => some 0
  | .finite negative magnitude =>
    let size :=
      if magnitude.exponent < 0 then
        let unit := Nat.pow 2 magnitude.exponent.natAbs
        if magnitude.mantissa % unit = 0 then some (magnitude.mantissa / unit) else Option.none
      else some (magnitude.mantissa * Nat.pow 2 magnitude.exponent.natAbs)
    size.map fun n => if negative then -Int.ofNat n else Int.ofNat n
  | _ => Option.none

/-- Equality of floating-point numbers; a shared one that is no number equals itself. -/
def sameFloat (shared : Bool) (x y : Float) : Bool :=
  x == y || (shared && x.isNaN && y.isNaN)

/-- The numeric content of a value: its real and imaginary part. Whole numbers are kept exact. -/
inductive Number where
  | whole (n : Int)
  | fraction (x : Float)
  | complex (re im : Float)

def number? : Value → Option Number
  | bool b => some (.whole (if b then 1 else 0))
  | int n => some (.whole n)
  | float x =>
    match wholeFloat? x with
    | some n => some (.whole n)
    | Option.none => some (.fraction x)
  | complex re im =>
    if im == 0.0 then
      match wholeFloat? re with
      | some n => some (.whole n)
      | Option.none => some (.fraction re)
    else some (.complex re im)
  | _ => Option.none

def Number.same (shared : Bool) : Number → Number → Bool
  | .whole m, .whole n => m == n
  | .fraction x, .fraction y => sameFloat shared x y
  | .complex a b, .complex c d => sameFloat shared a c && sameFloat shared b d
  | _, _ => false

/-- The members of an arithmetic progression, described by their count, first member and step. -/
def rangeShape (start stop step : Int) : Nat × Int × Int :=
  let count :=
    if step > 0 then ((stop - start + step - 1).fdiv step).toNat
    else if step < 0 then ((start - stop - step - 1).fdiv (-step)).toNat
    else 0
  if count = 0 then (0, 0, 0) else if count = 1 then (1, start, 0) else (count, start, step)

mutual

/-- Whether two values are equal. -/
def same (shared : Bool) : Value → Value → Bool
  | none, none => true
  | ellipsis, ellipsis => true
  | bytes a, bytes b => a == b
  | str a, str b => a == b
  | str a, kind b => a == b.label
  | kind a, str b => a.label == b
  | kind a, kind b => a == b
  | list a, list b => sameItems shared a b
  | tuple a, tuple b => sameItems shared a b
  | set a, set b | set a, frozenset b | frozenset a, set b | frozenset a, frozenset b =>
    a.length == b.length && sameMembers shared a b
  | dict a, dict b => a.length == b.length && sameEntries shared a b
  | range a b c, range d e f => rangeShape a b c == rangeShape d e f
  | day a, day b => a == b
  | moment a, moment b => a.same b
  | cycle a, cycle b => a == b
  | object a, object b => a.number == b.number
  | a, b =>
    match number? a, number? b with
    | some m, some n => m.same shared n
    | _, _ => false

/-- Whether two lists have equal values at every place. -/
def sameItems (shared : Bool) : List Value → List Value → Bool
  | [], [] => true
  | a :: as, b :: bs => same shared a b && sameItems shared as bs
  | _, _ => false

/-- Whether every value of the first list has an equal one in the second. -/
def sameMembers (shared : Bool) : List Value → List Value → Bool
  | [], _ => true
  | a :: as, bs => bs.any (fun b => same shared a b) && sameMembers shared as bs

/-- Whether every entry of the first list has an entry with an equal key and value in the
second. -/
def sameEntries (shared : Bool) : List (Value × Value) → List (Value × Value) → Bool
  | [], _ => true
  | (key, value) :: others, bs =>
    bs.any (fun b => same shared key b.1 && same shared value b.2) && sameEntries shared others bs

end

/-- Add an entry to a dictionary. A key that is present keeps its place and takes the new value. -/
def insertEntry (entries : List (Value × Value)) (key value : Value) : List (Value × Value) :=
  if entries.any fun entry => same false entry.1 key then
    entries.map fun entry => if same false entry.1 key then (entry.1, value) else entry
  else entries ++ [(key, value)]

/-- The dictionary that a list of entries builds up from left to right. -/
def dictOf (entries : List (Value × Value)) : Value :=
  dict (entries.foldl (fun built entry => insertEntry built entry.1 entry.2) [])

end SymbolReference.Value

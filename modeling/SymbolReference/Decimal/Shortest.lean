/-!
The shortest decimal that identifies a binary floating-point number.

A finite number is a mantissa times a power of two. The reals that round to it form an interval
whose ends belong to it exactly when the mantissa is even. Among the decimals of one, two, three, …
significant digits the first that falls into the interval is taken; of two with the same count of
digits the nearer one, and of two equally near ones the even one.
-/

namespace SymbolReference.Decimal

/-- A positive binary number: `mantissa * 2 ^ exponent`, where `closeBelow` tells whether the
number below it is half as far away as the number above it. -/
structure Binary where
  mantissa : Nat
  exponent : Int
  closeBelow : Bool
deriving Repr, DecidableEq

/-- A positive decimal number: the significant digits as one number, their count, and the power of
ten by which a point before the first digit is scaled. -/
structure Digits where
  number : Nat
  count : Nat
  scale : Int
deriving Repr, DecidableEq

/-- What the bits of a 64-bit floating-point number stand for. -/
inductive Parts where
  | nan
  | infinite (negative : Bool)
  | zero (negative : Bool)
  | finite (negative : Bool) (magnitude : Binary)
deriving Repr, DecidableEq

/-- Read the sign, the exponent and the mantissa off the bits of a number. -/
def Parts.ofBits (bits : Nat) : Parts :=
  let negative := bits / Nat.pow 2 63 % 2 == 1
  let exponent := bits / Nat.pow 2 52 % Nat.pow 2 11
  let fraction := bits % Nat.pow 2 52
  if exponent == 2047 then
    if fraction == 0 then .infinite negative else .nan
  else if exponent == 0 then
    if fraction == 0 then .zero negative else .finite negative ⟨fraction, -1074, false⟩
  else
    .finite negative
      ⟨fraction + Nat.pow 2 52, Int.ofNat exponent - 1075, fraction == 0 && exponent != 1⟩

/-- A quotient of natural numbers that stands for a positive real. -/
structure Ratio where
  numerator : Nat
  denominator : Nat

/-- A natural number times a power of two. -/
def Ratio.scaled (number : Nat) (exponent : Int) : Ratio :=
  let power := Nat.pow 2 exponent.natAbs
  if exponent < 0 then ⟨number, power⟩ else ⟨number * power, 1⟩

/-- A natural number times a power of ten. -/
def Ratio.decimal (number : Nat) (exponent : Int) : Ratio :=
  let power := Nat.pow 10 exponent.natAbs
  if exponent < 0 then ⟨number, power⟩ else ⟨number * power, 1⟩

/-- Whether one quotient is below another. -/
def Ratio.lt (a b : Ratio) : Bool :=
  a.numerator * b.denominator < b.numerator * a.denominator

/-- Whether one quotient is at most another. -/
def Ratio.le (a b : Ratio) : Bool :=
  a.numerator * b.denominator ≤ b.numerator * a.denominator

def Binary.value (b : Binary) : Ratio :=
  Ratio.scaled (4 * b.mantissa) (b.exponent - 2)

/-- The midpoint between a binary number and the one below it. -/
def Binary.lowerEnd (b : Binary) : Ratio :=
  Ratio.scaled (4 * b.mantissa - if b.closeBelow then 1 else 2) (b.exponent - 2)

/-- The midpoint between a binary number and the one above it. -/
def Binary.upperEnd (b : Binary) : Ratio :=
  Ratio.scaled (4 * b.mantissa + 2) (b.exponent - 2)

def Binary.roundsFrom (b : Binary) (x : Ratio) : Bool :=
  if b.mantissa % 2 == 0 then b.lowerEnd.le x && x.le b.upperEnd
  else b.lowerEnd.lt x && x.lt b.upperEnd

/-- The count of decimal digits of a number, by at most `fuel` divisions. -/
def digitCount : Nat → Nat → Nat
  | 0, _ => 0
  | fuel + 1, n => if n == 0 then 0 else digitCount fuel (n / 10) + 1

/-- The least power of ten above a quotient, tried from the given power downwards. -/
def leadingScale (x : Ratio) : Nat → Int → Int
  | 0, scale => scale
  | fuel + 1, scale =>
    if x.lt (Ratio.decimal 1 (scale - 1)) then leadingScale x fuel (scale - 1) else scale

/-- The least power of ten above a binary number. -/
def Binary.scale (b : Binary) : Int :=
  let x := b.value
  leadingScale x 400 (Int.ofNat (digitCount 400 (x.numerator / x.denominator)))

/-- The decimal with the given digits, its leading digit moved up when the digits overflow their
count. -/
def Digits.of (number count : Nat) (scale : Int) : Digits :=
  if number == Nat.pow 10 count then ⟨Nat.pow 10 (count - 1), count, scale + 1⟩
  else ⟨number, count, scale⟩

/-- The best decimal with a given count of digits that rounds to a binary number. -/
def Binary.onGrid (b : Binary) (scale : Int) (count : Nat) : Option Digits :=
  let x := b.value
  let unit := scale - Int.ofNat count
  let grid := Ratio.decimal 1 unit
  let top := x.numerator * grid.denominator
  let bottom := x.denominator * grid.numerator
  let below := top / bottom
  let rest := top % bottom
  let fitsBelow := below != 0 && b.roundsFrom (Ratio.decimal below unit)
  let fitsAbove := b.roundsFrom (Ratio.decimal (below + 1) unit)
  let preferBelow := 2 * rest < bottom || (2 * rest == bottom && below % 2 == 0)
  if fitsBelow && (preferBelow || !fitsAbove) then some (Digits.of below count scale)
  else if fitsAbove then some (Digits.of (below + 1) count scale)
  else none

/-- The shortest decimal that rounds to a binary number. Seventeen digits always suffice. -/
def Binary.shortest (b : Binary) : Digits :=
  let scale := b.scale
  match (List.range 17).findSome? fun extra => b.onGrid scale (extra + 1) with
  | some digits => digits
  | none => ⟨0, 1, scale⟩

end SymbolReference.Decimal

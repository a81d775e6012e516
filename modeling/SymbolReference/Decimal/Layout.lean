import SymbolReference.Decimal.Shortest

namespace SymbolReference.Decimal

/-- The decisions on how a decimal is laid out. -/
structure Layout where
  /-- The least power of ten of the leading digit that is written positionally. -/
  positionalFrom : Int := -4
  /-- The least power of ten of the leading digit that is written with an exponent again. -/
  positionalBelow : Int := 16
  /-- Whether a whole number is written with a point and a zero. -/
  pointZero : Bool := true

/-- The decimal digits of a natural number. -/
def natDigits (n : Nat) : List Char :=
  Nat.toDigits 10 n

/-- The decimal form of an integer. -/
def intDigits (n : Int) : List Char :=
  if n < 0 then '-' :: natDigits n.natAbs else natDigits n.natAbs

def exponentDigits (e : Int) : List Char :=
  let digits := natDigits e.natAbs
  (if e < 0 then '-' else '+') :: (if digits.length < 2 then '0' :: digits else digits)

/-- A positive decimal in the given layout. -/
def Digits.write (layout : Layout) (d : Digits) : List Char :=
  let digits := natDigits d.number
  let leading := d.scale - 1
  if layout.positionalFrom ≤ leading && leading < layout.positionalBelow then
    if d.scale ≤ 0 then
      '0' :: '.' :: List.replicate d.scale.natAbs '0' ++ digits
    else
      let whole := d.scale.toNat
      if digits.length ≤ whole then
        digits ++ List.replicate (whole - digits.length) '0' ++
          (if layout.pointZero then ['.', '0'] else [])
      else digits.take whole ++ '.' :: digits.drop whole
  else
    match digits with
    | [] => []
    | [digit] => digit :: 'e' :: exponentDigits leading
    | digit :: others => digit :: '.' :: others ++ 'e' :: exponentDigits leading

def signed (negative : Bool) (magnitude : List Char) : List Char :=
  if negative then '-' :: magnitude else magnitude

/-- A floating-point number in the given layout. -/
def Parts.write (layout : Layout) : Parts → List Char
  | .nan => ['n', 'a', 'n']
  | .infinite negative => signed negative ['i', 'n', 'f']
  | .zero negative => signed negative (if layout.pointZero then ['0', '.', '0'] else ['0'])
  | .finite negative magnitude => signed negative (magnitude.shortest.write layout)

def parts (x : Float) : Parts :=
  Parts.ofBits x.toBits.toNat

def write (layout : Layout) (x : Float) : List Char :=
  (parts x).write layout

/-- Whether a number carries a minus sign, also when it is zero. -/
def isNegative (x : Float) : Bool :=
  match parts x with
  | .nan => false
  | .infinite negative | .zero negative | .finite negative _ => negative

end SymbolReference.Decimal

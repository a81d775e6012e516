namespace SymbolReference

structure Day where
  year : Nat
  month : Nat
  day : Nat
deriving Repr, DecidableEq

/-- A moment: a day and a time of day, with the distance from universal time in seconds when the
zone is known. -/
structure Moment where
  date : Day
  hour : Nat
  minute : Nat
  second : Nat
  microsecond : Nat
  zone : Option Int
deriving Repr, DecidableEq

def isLeap (year : Nat) : Bool :=
  year % 4 == 0 && (year % 100 != 0 || year % 400 == 0)

/-- The number of days of a month. -/
def monthLength (year month : Nat) : Nat :=
  if month == 2 then if isLeap year then 29 else 28
  else if [4, 6, 9, 11].contains month then 30
  else 31

/-- The number of days before a day, counted from the first day of the year one. -/
def Day.ordinal (d : Day) : Nat :=
  let years := d.year - 1
  let months := (List.range (d.month - 1)).map fun n => monthLength d.year (n + 1)
  years * 365 + years / 4 - years / 100 + years / 400 + months.foldl (· + ·) 0 + (d.day - 1)

/-- The seconds that a clock has passed since the first day of the year one. -/
def Moment.clock (m : Moment) : Int :=
  m.date.ordinal * 86400 + m.hour * 3600 + m.minute * 60 + m.second

/-- Whether two moments are equal. One that knows its zone never equals one that does not. -/
def Moment.same (a b : Moment) : Bool :=
  match a.zone, b.zone with
  | none, none => a == b
  | some x, some y => a.clock - x == b.clock - y && a.microsecond == b.microsecond
  | _, _ => false

end SymbolReference

import SymbolReference.Value.Printer

namespace SymbolReference.Log

/-- The calendar day a number of days after the first of March of the year zero. Years that start
in March end with the leap day, so months and years come out by division. -/
def dayAfterMarch (days : Nat) : Day :=
  let cycle := days / 146097
  let inCycle := days % 146097
  let yearInCycle := (inCycle - inCycle / 1460 + inCycle / 36524 - inCycle / 146096) / 365
  let inYear := inCycle - (365 * yearInCycle + yearInCycle / 4 - yearInCycle / 100)
  let fromMarch := (5 * inYear + 2) / 153
  let month := if fromMarch < 10 then fromMarch + 3 else fromMarch - 9
  { year := 400 * cycle + yearInCycle + (if month ≤ 2 then 1 else 0)
    month
    day := inYear - (153 * fromMarch + 2) / 5 + 1 }

/-- The calendar day a number of days after the first day of 1970. -/
def dayOf (days : Nat) : Day :=
  dayAfterMarch (days + 719468)

/-- A moment given in microseconds after the start of 1970, in universal time. -/
def stamp (microseconds : Nat) : List Char :=
  let seconds := microseconds / 1000000
  (dayOf (seconds / 86400)).plain ++ 'T' :: padded 2 (seconds / 3600 % 24) ++
    ':' :: padded 2 (seconds / 60 % 60) ++ ':' :: padded 2 (seconds % 60) ++
    '.' :: padded 6 (microseconds % 1000000) ++ ['Z']

end SymbolReference.Log

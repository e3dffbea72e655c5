/-!
The Gregorian calendar carried back to year 1. A date and the number of days since the first one
determine each other.
-/
namespace PayoutRegistry

/-- A day of the calendar; years count from 1, months and days too. -/
structure Date where
  year : Nat
  month : Nat
  day : Nat
deriving DecidableEq, Repr

namespace Date

def isLeap (year : Nat) : Bool := year % 4 == 0 && (year % 100 != 0 || year % 400 == 0)

def daysInMonth (year month : Nat) : Nat :=
  match month with
  | 2 => if isLeap year then 29 else 28
  | 4 | 6 | 9 | 11 => 30
  | _ => 31

/-- The days of the years before. -/
def daysBeforeYear (year : Nat) : Nat :=
  let past := year - 1
  365 * past + past / 4 - past / 100 + past / 400

/-- The days of the months before in the same year. -/
def daysBeforeMonth (year month : Nat) : Nat :=
  (List.range (month - 1)).foldl (fun days k => days + daysInMonth year (k + 1)) 0

/-- The last year that a date may have. -/
def maxYear : Nat := 9999

def isValid (d : Date) : Bool :=
  1 ≤ d.year && d.year ≤ maxYear && 1 ≤ d.month && d.month ≤ 12 && 1 ≤ d.day &&
    d.day ≤ daysInMonth d.year d.month

/-- The days since the first of January of year 1. -/
def dayNumber (d : Date) : Nat := daysBeforeYear d.year + daysBeforeMonth d.year d.month + (d.day - 1)

/-- The month and the day within it, counted in months from `month` on. -/
def monthOf (year rest : Nat) : Nat → Nat → Nat × Nat
  | 0, month => (month, rest + 1)
  | left + 1, month =>
    let length := daysInMonth year month
    if rest < length then (month, rest + 1) else monthOf year (rest - length) left (month + 1)

/-- The date that lies `n` days after the first: years are counted off in cycles of 400, 100, 4 and 1,
the last part of a cycle being one day longer. -/
def ofDayNumber (n : Nat) : Date :=
  let n400 := n / 146097
  let rest := n % 146097
  let n100 := min (rest / 36524) 3
  let rest := rest - n100 * 36524
  let n4 := rest / 1461
  let rest := rest % 1461
  let n1 := min (rest / 365) 3
  let rest := rest - n1 * 365
  let year := 400 * n400 + 100 * n100 + 4 * n4 + n1 + 1
  let (month, day) := monthOf year rest 11 1
  { year, month, day }

end Date

end PayoutRegistry

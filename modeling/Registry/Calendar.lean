import Registry.Text

/-!
# Calendar dates

Dates of the proleptic Gregorian calendar in the years 1 to 9999. Days are numbered from 1 January
of the year 1, which is day 0 and a Monday. `Date.ofDayNumber?` inverts `Date.dayNumber`.
-/

namespace Registry

def isLeapYear (year : Nat) : Bool := year % 4 == 0 && (year % 100 != 0 || year % 400 == 0)

def daysInMonth (year month : Nat) : Nat :=
  if month = 2 then if isLeapYear year then 29 else 28
  else if month = 4 ∨ month = 6 ∨ month = 9 ∨ month = 11 then 30
  else 31

/-- The number of days between 1 January of the year 1 and 1 January of a year. -/
def daysBeforeYear (year : Nat) : Nat :=
  365 * (year - 1) + (year - 1) / 4 - (year - 1) / 100 + (year - 1) / 400

/-- The number of days of a year before a month. -/
def daysBeforeMonth (year : Nat) : (month : Nat) → Nat
  | 0 => 0
  | 1 => 0
  | month + 2 => daysBeforeMonth year (month + 1) + daysInMonth year (month + 1)

structure Date where
  year : Nat
  month : Nat
  day : Nat
  valid : 1 ≤ year ∧ year ≤ 9999 ∧ 1 ≤ month ∧ month ≤ 12 ∧ 1 ≤ day ∧ day ≤ daysInMonth year month
deriving DecidableEq

namespace Date

/-- The date of given year, month and day, if the calendar has it. -/
def of? (year month day : Nat) : Option Date :=
  if h : 1 ≤ year ∧ year ≤ 9999 ∧ 1 ≤ month ∧ month ≤ 12 ∧ 1 ≤ day
      ∧ day ≤ daysInMonth year month then
    some ⟨year, month, day, h⟩
  else none

/-- The number of a date, counted from 1 January of the year 1. -/
def dayNumber (d : Date) : Nat :=
  daysBeforeYear d.year + daysBeforeMonth d.year d.month + (d.day - 1)

/-- The year of a day, found from an estimate that is at most one year off. -/
def yearOf (n : Nat) : Nat :=
  let estimate := n * 400 / 146097 + 1
  if n < daysBeforeYear estimate then estimate - 1
  else if daysBeforeYear (estimate + 1) ≤ n then estimate + 1
  else estimate

/-- The month and the day of the month of the day that is `rest` days after the first of a month,
looking at no more than `months` months. -/
def monthAndDay (year : Nat) : (months : Nat) → (month rest : Nat) → Nat × Nat
  | 0, month, rest => (month, rest + 1)
  | months + 1, month, rest =>
    if rest < daysInMonth year month then (month, rest + 1)
    else monthAndDay year months (month + 1) (rest - daysInMonth year month)

/-- The date with a given number. -/
def ofDayNumber? (n : Nat) : Option Date :=
  let year := yearOf n
  let (month, day) := monthAndDay year 11 1 (n - daysBeforeYear year)
  of? year month day

/-- The text `YYYY-MM-DD`. -/
def text (d : Date) : Text :=
  Text.padded 4 d.year ++ Text.ofString "-" ++ Text.padded 2 d.month ++ Text.ofString "-"
    ++ Text.padded 2 d.day

end Date

/-- The number of the Monday that begins the first week of a year: the week of its 4 January. -/
def firstMonday (year : Nat) : Nat :=
  let newYear := daysBeforeYear year
  if newYear % 7 ≤ 3 then newYear - newYear % 7 else newYear - newYear % 7 + 7

/-- A year has a week 53 if it begins on a Thursday, or on a Wednesday and is a leap year. -/
def hasWeek53 (year : Nat) : Bool :=
  let weekday := daysBeforeYear year % 7
  weekday == 3 || (weekday == 2 && isLeapYear year)

end Registry

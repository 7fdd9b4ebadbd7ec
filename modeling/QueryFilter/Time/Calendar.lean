/-
  CALENDAR — days of the years 1 to 9999, and their numbering.

  The calendar is the Gregorian one, extended to all those years.  Day 0 is 1 January of year 1, and
  the last day, 31 December 9999, has number 3652058.  `Date.dayNumber` counts the days before a
  date, and `Date.ofDayNumber?` goes back: the year is guessed from the mean length of a year, which
  is off by one at most, and the month is found by taking away month lengths.
-/

namespace QueryFilter

/-! ## Years and months -/

/-- A year with 366 days. -/
def isLeapYear (year : Nat) : Bool := year % 4 == 0 && (year % 100 != 0 || year % 400 == 0)

/-- The lengths of the twelve months. -/
def monthLengths (year : Nat) : List Nat :=
  [31, if isLeapYear year then 29 else 28, 31, 30, 31, 30, 31, 31, 30, 31, 30, 31]

/-- The number of days in a month, which is counted from 1. -/
def daysInMonth (year month : Nat) : Nat := (monthLengths year).getD (month - 1) 0

/-- The number of days from 1 January of year 1 to 1 January of a year. -/
def daysBeforeYear (year : Nat) : Nat :=
  365 * (year - 1) + (year - 1) / 4 - (year - 1) / 100 + (year - 1) / 400

/-- The number of days from 1 January to the first of a month. -/
def daysBeforeMonth (year month : Nat) : Nat := ((monthLengths year).take (month - 1)).foldl (· + ·) 0

/-! ## Dates -/

/-- The days of the calendar. -/
def Date.Valid (year month day : Nat) : Prop :=
  1 ≤ year ∧ year ≤ 9999 ∧ 1 ≤ month ∧ month ≤ 12 ∧ 1 ≤ day ∧ day ≤ daysInMonth year month

instance (year month day : Nat) : Decidable (Date.Valid year month day) := by
  unfold Date.Valid; infer_instance

/-- A day of the calendar. -/
structure Date where
  year : Nat
  month : Nat
  day : Nat
  valid : Date.Valid year month day
deriving DecidableEq, Repr

namespace Date

instance : Inhabited Date := ⟨⟨1, 1, 1, by decide⟩⟩

/-- The date of that year, month and day, if there is one. -/
def ofFields? (year month day : Nat) : Option Date :=
  if h : Valid year month day then some ⟨year, month, day, h⟩ else none

/-- How many days of the calendar come before the date. -/
def dayNumber (date : Date) : Nat :=
  daysBeforeYear date.year + daysBeforeMonth date.year date.month + (date.day - 1)

/-- The year that holds a day number. -/
def yearOfDay (n : Nat) : Nat :=
  let guess := n * 400 / 146097 + 1
  if n < daysBeforeYear guess then guess - 1
  else if daysBeforeYear (guess + 1) ≤ n then guess + 1
  else guess

/-- How many of the months have passed after `n` days, and how many days of the next one. -/
def passMonths : List Nat → Nat → Nat × Nat
  | [], n => (0, n)
  | length :: lengths, n =>
    if n < length then (0, n)
    else
      let (months, days) := passMonths lengths (n - length)
      (months + 1, days)

/-- The date with that number of days before it; `none` after the year 9999. -/
def ofDayNumber? (n : Nat) : Option Date :=
  let year := yearOfDay n
  let (months, days) := passMonths (monthLengths year) (n - daysBeforeYear year)
  ofFields? year (months + 1) (days + 1)

example : (ofDayNumber? 3652058).map (fun d => (d.year, d.month, d.day)) = some (9999, 12, 31) := by
  decide
example : ofDayNumber? 3652059 = none := by decide
example : ((ofFields? 2024 2 29).map dayNumber).bind ofDayNumber? = ofFields? 2024 2 29 := by decide

end Date

end QueryFilter

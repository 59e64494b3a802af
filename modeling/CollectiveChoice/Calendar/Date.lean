/-!
# Dates

A date is a year, a month and a day of the Gregorian calendar, carried back and forth without end in
principle and between two fixed years in practice.  The year zero is the one before the year one.
Every date exists: the fields of a date that does not, such as the thirtieth of February, make none.
-/

namespace CollectiveChoice

set_option autoImplicit false

namespace Calendar

/-! ## Years and months -/

/-- The first year of the calendar. -/
def firstYear : Int := -262143

/-- The last year of the calendar. -/
def lastYear : Int := 262142

/-- Whether a year has a leap day. -/
def isLeapYear (year : Int) : Bool :=
  year % 4 == 0 && (year % 100 != 0 || year % 400 == 0)

/-- The lengths of the months of a year. -/
def monthLengths (year : Int) : List Nat :=
  [31, if isLeapYear year then 29 else 28, 31, 30, 31, 30, 31, 31, 30, 31, 30, 31]

/-- The number of days of a month, counted from one. -/
def monthLength (year : Int) (month : Nat) : Nat :=
  (monthLengths year).getD (month - 1) 0

/-- Whether there is a day with the given fields. -/
def isDate (year : Int) (month day : Nat) : Bool :=
  firstYear ≤ year && year ≤ lastYear && 1 ≤ month && month ≤ 12 && 1 ≤ day &&
    day ≤ monthLength year month

end Calendar

open Calendar

/-! ## Dates -/

/-- A day of the calendar. -/
structure Date where
  year : Int
  /-- The month, counted from one. -/
  month : Nat
  /-- The day of the month, counted from one. -/
  day : Nat
  /-- There is such a day. -/
  exists_day : isDate year month day = true
deriving DecidableEq, Repr

namespace Date

/-- The date with the given fields, if there is one. -/
def ofFields? (year : Int) (month day : Nat) : Option Date :=
  if found : isDate year month day = true then some ⟨year, month, day, found⟩ else none

/-- The day after a date. -/
def next? (date : Date) : Option Date :=
  if date.day < monthLength date.year date.month then
    ofFields? date.year date.month (date.day + 1)
  else if date.month < 12 then ofFields? date.year (date.month + 1) 1
  else ofFields? (date.year + 1) 1 1

/-- The day before a date. -/
def previous? (date : Date) : Option Date :=
  if 1 < date.day then ofFields? date.year date.month (date.day - 1)
  else if 1 < date.month then
    ofFields? date.year (date.month - 1) (monthLength date.year (date.month - 1))
  else ofFields? (date.year - 1) 12 31

/-- The number of a day within its year, counted from one. -/
def dayOfYear (date : Date) : Nat :=
  ((monthLengths date.year).take (date.month - 1)).foldl (· + ·) date.day

/-- The number of a day, counted from one at the beginning of the year one. -/
def dayNumber (date : Date) : Int :=
  let before := date.year - 1
  before * 365 + before / 4 - before / 100 + before / 400 + date.dayOfYear

/-- The day of the week, counted from zero for Sunday. -/
def weekday (date : Date) : Nat :=
  (date.dayNumber % 7).toNat

end Date

end CollectiveChoice

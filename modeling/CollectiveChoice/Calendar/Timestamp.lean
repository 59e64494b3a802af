import CollectiveChoice.Calendar.Date
import CollectiveChoice.Number.Rounding

/-!
# Points in time

A timestamp is a date and a time of day at the prime meridian, to the nanosecond.  The second 60 is
there for leap seconds.  A timestamp is written as `2024-01-01T10:00:00Z`; the seconds carry three,
six or nine decimals, as few as do, and a year that does not have four digits carries a sign.
-/

namespace CollectiveChoice

set_option autoImplicit false

/-! ## Times of day -/

/-- Whether there is a time with the given fields. -/
def Calendar.isTime (hour minute second nanosecond : Nat) : Bool :=
  hour < 24 && minute < 60 && second ≤ 60 && nanosecond < 1000000000

/-- A time of day. -/
structure TimeOfDay where
  hour : Nat
  minute : Nat
  second : Nat
  /-- The nanoseconds beyond the second. -/
  nanosecond : Nat
  /-- There is such a time. -/
  exists_time : Calendar.isTime hour minute second nanosecond = true
deriving DecidableEq, Repr

/-- The time with the given fields, if there is one. -/
def TimeOfDay.ofFields? (hour minute second nanosecond : Nat) : Option TimeOfDay :=
  if found : Calendar.isTime hour minute second nanosecond = true then
    some ⟨hour, minute, second, nanosecond, found⟩
  else none

/-- A point in time, at the prime meridian. -/
structure Timestamp where
  date : Date
  time : TimeOfDay
deriving DecidableEq, Repr

namespace Calendar

/-! ## Writing -/

/-- A number with zeros in front of it up to a number of digits. -/
def padded (length number : Nat) : List Char :=
  Number.padLeft length (Nat.toDigits 10 number)

/-- A year: four digits, or a sign and at least four digits. -/
def yearChars (year : Int) : List Char :=
  if 0 ≤ year ∧ year ≤ 9999 then padded 4 year.toNat
  else (if year < 0 then '-' else '+') :: padded 4 year.natAbs

/-- The decimals of a second. -/
def fractionChars (nanosecond : Nat) : List Char :=
  if nanosecond = 0 then []
  else if nanosecond % 1000000 = 0 then '.' :: padded 3 (nanosecond / 1000000)
  else if nanosecond % 1000 = 0 then '.' :: padded 6 (nanosecond / 1000)
  else '.' :: padded 9 nanosecond

/-- A date as `2024-01-31`. -/
def dateChars (date : Date) : List Char :=
  yearChars date.year ++ '-' :: padded 2 date.month ++ '-' :: padded 2 date.day

/-- A time of day as `10:05:00`, without decimals. -/
def clockChars (time : TimeOfDay) : List Char :=
  padded 2 time.hour ++ ':' :: padded 2 time.minute ++ ':' :: padded 2 time.second

end Calendar

/-- The text of a timestamp. -/
def Timestamp.write (timestamp : Timestamp) : String :=
  String.ofList (Calendar.dateChars timestamp.date ++ 'T' :: Calendar.clockChars timestamp.time ++
    Calendar.fractionChars timestamp.time.nanosecond ++ ['Z'])

end CollectiveChoice

import CollectiveChoice.Calendar.Timestamp

/-!
# Patterns for points in time

A pattern is a text in which a percent sign and a letter stand for a part of a timestamp.  A percent
sign with any other character after it, or with none, makes the text no pattern.
-/

namespace CollectiveChoice

set_option autoImplicit false

namespace Calendar

/-- The days of the week, from Sunday on. -/
def weekdayNames : List String :=
  ["Sunday", "Monday", "Tuesday", "Wednesday", "Thursday", "Friday", "Saturday"]

/-- The months. -/
def monthNames : List String := [
  "January", "February", "March", "April", "May", "June", "July", "August", "September",
  "October", "November", "December"]

/-- A name of a list, or nothing beyond its end. -/
def nameAt (names : List String) (place : Nat) : List Char :=
  (names.getD place "").toList

/-- The hour on a dial of twelve. -/
def dialHour (hour : Nat) : Nat :=
  if hour % 12 = 0 then 12 else hour % 12

/-- The part of a timestamp that a letter stands for. -/
def part? (timestamp : Timestamp) (letter : Char) : Option (List Char) :=
  let ⟨date, time⟩ := timestamp
  let shortYear := padded 2 (date.year % 100).toNat
  match letter with
  | 'Y' => some (yearChars date.year)
  | 'm' => some (padded 2 date.month)
  | 'd' => some (padded 2 date.day)
  | 'H' => some (padded 2 time.hour)
  | 'M' => some (padded 2 time.minute)
  | 'S' => some (padded 2 time.second)
  | 'y' => some shortYear
  | 'j' => some (padded 3 date.dayOfYear)
  | 'a' => some ((nameAt weekdayNames date.weekday).take 3)
  | 'A' => some (nameAt weekdayNames date.weekday)
  | 'b' => some ((nameAt monthNames (date.month - 1)).take 3)
  | 'B' => some (nameAt monthNames (date.month - 1))
  | 'e' => some (if date.day < 10 then ' ' :: padded 1 date.day else padded 2 date.day)
  | 'I' => some (padded 2 (dialHour time.hour))
  | 'p' => some (if time.hour < 12 then ['A', 'M'] else ['P', 'M'])
  | 'F' => some (dateChars date)
  | 'T' => some (clockChars time)
  | 'D' => some (padded 2 date.month ++ '/' :: padded 2 date.day ++ '/' :: shortYear)
  | 'R' => some (padded 2 time.hour ++ ':' :: padded 2 time.minute)
  | '%' => some ['%']
  | _ => none

/-- The characters a pattern stands for. -/
def fill? (timestamp : Timestamp) : List Char → Option (List Char)
  | [] => some []
  | ['%'] => none
  | '%' :: letter :: rest => do
    let part ← part? timestamp letter
    let others ← fill? timestamp rest
    return part ++ others
  | c :: rest => (fill? timestamp rest).map (c :: ·)

end Calendar

/-- A timestamp as a pattern says, unless the text is no pattern. -/
def Timestamp.format? (timestamp : Timestamp) (pattern : String) : Option String :=
  (Calendar.fill? timestamp pattern.toList).map String.ofList

end CollectiveChoice

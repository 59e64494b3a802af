import CollectiveChoice.Calendar.Timestamp
import CollectiveChoice.Text.Blank

/-!
# Reading points in time

The text of a timestamp is read liberally: fields may have fewer digits than they are written with,
blanks may stand between them, a blank may take the place of the letter between date and time, and
decimals beyond the ninth are dropped.  What has to be there is every field and the distance to the
prime meridian, by which the time is shifted.

A reader returns the value at the start of a text and the text behind it, or nothing where the text
starts otherwise.
-/

namespace CollectiveChoice

set_option autoImplicit false

namespace Calendar

/-! ## Fields -/

/-- The text from its first character on that is not blank. -/
def skipBlanks (chars : List Char) : List Char :=
  chars.dropWhile Text.isBlank

/-- The digits at the start of a text, but not more than a given number of them. -/
def leadingDigits (most : Nat) (chars : List Char) : List Char :=
  (chars.take most).takeWhile Char.isDigit

/-- A number of at least one and at most the given number of digits. -/
def digits? (most : Nat) (chars : List Char) : Option (Nat × List Char) :=
  let digits := leadingDigits most chars
  (Text.readDigits? digits).map fun number => (number, chars.drop digits.length)

/-- A field of one or two digits. -/
def field? (chars : List Char) : Option (Nat × List Char) :=
  digits? 2 (skipBlanks chars)

/-- A year: up to four digits, or any number of them after a sign. -/
def year? (chars : List Char) : Option (Int × List Char) :=
  match skipBlanks chars with
  | '-' :: rest => (digits? rest.length rest).map fun found => (-(found.1 : Int), found.2)
  | '+' :: rest => (digits? rest.length rest).map fun found => ((found.1 : Int), found.2)
  | rest => (digits? 4 rest).map fun found => ((found.1 : Int), found.2)

/-- The text behind a mark, which may have blanks before it. -/
def mark? (mark : Char) (chars : List Char) : Option (List Char) :=
  match skipBlanks chars with
  | [] => none
  | c :: rest => if c = mark then some rest else none

/-- The decimals of a second as nanoseconds. -/
def decimals? (chars : List Char) : Option (Nat × List Char) := do
  let digits := leadingDigits 9 chars
  let number ← Text.readDigits? digits
  return (number * Nat.pow 10 (9 - digits.length), chars.dropWhile Char.isDigit)

/-- The nanoseconds beyond a second, where there are decimals. -/
def nanoseconds? (chars : List Char) : Option (Nat × List Char) :=
  match chars with
  | '.' :: rest => decimals? rest
  | rest => some (0, rest)

/-! ## Date and time -/

/-- A date. -/
def date? (chars : List Char) : Option (Date × List Char) := do
  let (year, chars) ← year? chars
  let (month, chars) ← field? (← mark? '-' chars)
  let (day, chars) ← field? (← mark? '-' chars)
  let date ← Date.ofFields? year month day
  return (date, chars)

/-- The text behind the mark between date and time. -/
def divider? (chars : List Char) : Option (List Char) :=
  match chars with
  | [] => none
  | c :: rest => if c = 'T' ∨ c = 't' ∨ c = ' ' then some rest else none

/-- A time of day. -/
def time? (chars : List Char) : Option (TimeOfDay × List Char) := do
  let (hour, chars) ← field? chars
  let (minute, chars) ← field? (← mark? ':' chars)
  let (second, chars) ← field? (← mark? ':' chars)
  let (nanosecond, chars) ← nanoseconds? chars
  let time ← TimeOfDay.ofFields? hour minute second nanosecond
  return (time, chars)

/-! ## The distance to the prime meridian -/

/-- A number of exactly two digits. -/
def twoDigits? (chars : List Char) : Option (Nat × List Char) :=
  match chars with
  | tens :: ones :: rest => (Text.readDigits? [tens, ones]).map fun number => (number, rest)
  | _ => none

/-- Hours and minutes, with any colons and blanks between them, in minutes. -/
def distance? (chars : List Char) : Option (Nat × List Char) := do
  let (hours, chars) ← twoDigits? chars
  let (minutes, chars) ← twoDigits? (chars.dropWhile fun c => c == ':' || Text.isBlank c)
  if minutes < 60 ∧ hours * 60 + minutes < 1440 then
    return (hours * 60 + minutes, chars)
  else none

/-- The minutes by which a clock is ahead of the prime meridian. -/
def offset? (chars : List Char) : Option (Int × List Char) :=
  match skipBlanks chars with
  | 'Z' :: rest => some (0, rest)
  | 'z' :: rest => some (0, rest)
  | '+' :: rest => (distance? rest).map fun found => ((found.1 : Int), found.2)
  | '-' :: rest => (distance? rest).map fun found => (-(found.1 : Int), found.2)
  | '−' :: rest => (distance? rest).map fun found => (-(found.1 : Int), found.2)
  | u :: t :: c :: rest =>
    if u.toUpper = 'U' ∧ t.toUpper = 'T' ∧ c.toUpper = 'C' then some (0, rest) else none
  | _ => none

/-- The point in time at which a clock that is ahead by some minutes shows a date and a time. -/
def shift? (date : Date) (time : TimeOfDay) (ahead : Int) : Option Timestamp := do
  let minutes : Int := time.hour * 60 + time.minute - ahead
  let shifted ←
    if minutes < 0 then date.previous?
    else if minutes < 1440 then some date
    else date.next?
  let minuteOfDay := (minutes % 1440).toNat
  let clock ←
    TimeOfDay.ofFields? (minuteOfDay / 60) (minuteOfDay % 60) time.second time.nanosecond
  return ⟨shifted, clock⟩

end Calendar

open Calendar in
/-- Reads a timestamp. -/
def Timestamp.read? (text : String) : Option Timestamp := do
  let (date, chars) ← date? text.toList
  let (time, chars) ← time? (← divider? chars)
  let (ahead, chars) ← offset? chars
  if chars.all Text.isBlank then shift? date time ahead else none

end CollectiveChoice

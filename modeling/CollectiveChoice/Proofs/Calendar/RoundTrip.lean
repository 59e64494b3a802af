import Mathlib.Algebra.Group.Nat.Defs
import CollectiveChoice.Calendar.Reader

/-!
# Timestamps are read back as they are written

Every field of a timestamp is written with a fixed number of digits and followed by a mark, so a
reader that takes as many digits as it finds, but not too many, takes the field and nothing else
(`digits?_padded`).  A year has a sign wherever four digits are not enough for it, and then the
reader counts no digits.  Of the decimals of a second only zeros at the end are left out
(`nanoseconds?_fractionChars`), and the distance to the prime meridian is written as none.

So every timestamp there is comes back as the same point in time (`Timestamp.read?_write`), in years
of more than four digits, before the year zero and within leap seconds as well.
-/

namespace CollectiveChoice

set_option autoImplicit false

namespace Calendar

/-! ## Digits -/

theorem isDigit_of_mem_padded {length number : Nat} :
    ∀ c ∈ padded length number, c.isDigit = true := by
  intro c inside
  rcases List.mem_append.mp inside with zero | digit
  · rw [List.eq_of_mem_replicate zero]
    rfl
  · exact Text.isDigit_of_mem_toDigits c digit

theorem padded_ne_nil (length number : Nat) : padded length number ≠ [] :=
  List.append_ne_nil_of_right_ne_nil _ Nat.toDigits_ne_nil

/-- Zeros in front of a number do not change it. -/
theorem readDigits?_padded (length number : Nat) :
    Text.readDigits? (padded length number) = some number := by
  have digits : (padded length number).all Char.isDigit = true :=
    List.all_eq_true.mpr isDigit_of_mem_padded
  have value : Nat.ofDigitChars 10 (padded length number) 0 = number := by
    rw [padded, Number.padLeft, Nat.ofDigitChars_append, Nat.ofDigitChars_replicate_zero,
      Nat.mul_zero, Nat.ofDigitChars_ten_toDigits]
  simp [Text.readDigits?, digits, padded_ne_nil, value]

/-- A number that has no more than the given digits is written with exactly as many. -/
theorem length_padded {length number : Nat} (positive : 0 < length)
    (fits : number < 10 ^ length) : (padded length number).length = length := by
  have short := (Nat.length_toDigits_le_iff (by decide) positive).mpr fits
  rw [padded, Number.padLeft, List.length_append, List.length_replicate]
  omega

section

variable {rest : List Char} (stops : ∀ c ∈ rest.head?, c.isDigit = false)

include stops

theorem leadingDigits_append {most : Nat} {digits : List Char}
    (all : ∀ c ∈ digits, c.isDigit = true) (few : digits.length ≤ most) :
    leadingDigits most (digits ++ rest) = digits := by
  rw [leadingDigits, List.take_append, List.take_of_length_le few]
  refine Text.takeWhile_isDigit_append all fun c first => stops c ?_
  rw [List.head?_take] at first
  split at first
  · cases first
  · exact first

/-- A number is read as far as its digits go, however many of them the reader would take. -/
theorem digits?_padded {most length number : Nat} (few : (padded length number).length ≤ most) :
    digits? most (padded length number ++ rest) = some (number, rest) := by
  rw [digits?, leadingDigits_append stops isDigit_of_mem_padded few]
  simp [readDigits?_padded]

end

/-! ## Fields -/

theorem skipBlanks_cons {c : Char} (rest : List Char) (shown : Text.isBlank c = false) :
    skipBlanks (c :: rest) = c :: rest :=
  List.dropWhile_cons_of_neg (by simp [shown])

theorem isBlank_of_isDigit {c : Char} (digit : c.isDigit = true) : Text.isBlank c = false :=
  Text.isBlank_of_isAlphanum (by simp [Char.isAlphanum, digit])

theorem exists_padded_eq_cons (length number : Nat) :
    ∃ c more, padded length number = c :: more ∧ c.isDigit = true := by
  obtain ⟨c, more, written⟩ := List.exists_cons_of_ne_nil (padded_ne_nil length number)
  exact ⟨c, more, written, isDigit_of_mem_padded c (by rw [written]; exact List.mem_cons_self)⟩

theorem skipBlanks_padded (length number : Nat) (rest : List Char) :
    skipBlanks (padded length number ++ rest) = padded length number ++ rest := by
  obtain ⟨c, more, written, digit⟩ := exists_padded_eq_cons length number
  rw [written, List.cons_append]
  exact skipBlanks_cons _ (isBlank_of_isDigit digit)

section

variable {rest : List Char} (stops : ∀ c ∈ rest.head?, c.isDigit = false)

include stops

theorem field?_padded {number : Nat} (fits : number < 100) :
    field? (padded 2 number ++ rest) = some (number, rest) := by
  rw [field?, skipBlanks_padded]
  exact digits?_padded stops (Nat.le_of_eq (length_padded (by decide) fits))

/-- A year is read back: four digits without a sign, or all digits behind one. -/
theorem year?_yearChars (year : Int) :
    year? (yearChars year ++ rest) = some (year, rest) := by
  have all (number : Nat) :
      digits? (padded 4 number ++ rest).length (padded 4 number ++ rest) = some (number, rest) :=
    digits?_padded stops (by simp)
  rw [yearChars, year?]
  by_cases plain : 0 ≤ year ∧ year ≤ 9999
  · have four : digits? 4 (padded 4 year.toNat ++ rest) = some (year.toNat, rest) :=
      digits?_padded stops (Nat.le_of_eq (length_padded (by decide) (by omega)))
    obtain ⟨c, more, written, digit⟩ := exists_padded_eq_cons 4 year.toNat
    rw [if_pos plain, skipBlanks_padded]
    split
    · rename_i sign
      rw [written] at sign
      cases sign
      cases digit
    · rename_i sign
      rw [written] at sign
      cases sign
      cases digit
    · rw [four, Option.map_some, Int.toNat_of_nonneg plain.1]
  · rw [if_neg plain, List.cons_append]
    by_cases before : year < 0
    · rw [if_pos before, skipBlanks_cons _ (by decide)]
      simp only [all, Option.map_some]
      congr 2
      omega
    · rw [if_neg before, skipBlanks_cons _ (by decide)]
      simp only [all, Option.map_some]
      congr 2
      omega

end

theorem mark?_cons {mark : Char} (rest : List Char) (shown : Text.isBlank mark = false) :
    mark? mark (mark :: rest) = some rest := by
  rw [mark?, skipBlanks_cons rest shown]
  exact if_pos rfl

theorem head?_cons_of_not_isDigit {c : Char} {rest : List Char} (other : c.isDigit = false) :
    ∀ first ∈ (c :: rest).head?, first.isDigit = false := by
  rintro first ⟨⟩
  exact other

/-! ## Date and time -/

theorem monthLength_le (year : Int) (month : Nat) : monthLength year month ≤ 31 := by
  have listed : ∀ length ∈ monthLengths year, length ≤ 31 := by
    unfold monthLengths
    split <;> simp
  unfold monthLength
  rw [List.getD_eq_getElem?_getD]
  cases found : (monthLengths year)[month - 1]? with
  | none => exact Nat.zero_le _
  | some length => exact listed length (List.mem_of_getElem? found)

/-- Month and day have two digits at most. -/
theorem lt_of_date (date : Date) : date.month < 100 ∧ date.day < 100 := by
  have found := date.exists_day
  simp only [isDate, Bool.and_eq_true, decide_eq_true_eq] at found
  have longest := monthLength_le date.year date.month
  omega

theorem date?_dateChars (date : Date) {rest : List Char}
    (stops : ∀ c ∈ rest.head?, c.isDigit = false) :
    date? (dateChars date ++ rest) = some (date, rest) := by
  obtain ⟨month, day⟩ := lt_of_date date
  have dash {more : List Char} := @head?_cons_of_not_isDigit '-' more (by decide)
  have fields : Date.ofFields? date.year date.month date.day = some date :=
    dif_pos date.exists_day
  simp only [date?, dateChars, List.append_assoc, List.cons_append, year?_yearChars dash,
    Option.bind_eq_bind, Option.bind_some, mark?_cons _ (show Text.isBlank '-' = false by decide),
    field?_padded dash month, field?_padded stops day, fields]
  rfl

/-- Hour, minute and second have two digits at most. -/
theorem lt_of_time (time : TimeOfDay) :
    time.hour < 24 ∧ time.minute < 60 ∧ time.second < 100 ∧ time.nanosecond < 1000000000 := by
  have found := time.exists_time
  simp only [isTime, Bool.and_eq_true, decide_eq_true_eq] at found
  omega

section

variable {rest : List Char} (stops : ∀ c ∈ rest.head?, c.isDigit = false)

include stops

/-- Decimals are read with the zeros they are written without. -/
theorem decimals?_padded {length number : Nat} (positive : 0 < length) (few : length ≤ 9)
    (fits : number < 10 ^ length) :
    decimals? (padded length number ++ rest) = some (number * 10 ^ (9 - length), rest) := by
  have digits := length_padded positive fits
  have read : leadingDigits 9 (padded length number ++ rest) = padded length number :=
    leadingDigits_append stops isDigit_of_mem_padded (by omega)
  simp only [decimals?, read, readDigits?_padded, digits,
    Text.dropWhile_isDigit_append isDigit_of_mem_padded stops]
  rfl

/-- The decimals of a second are none or start with a point. -/
theorem head?_fractionChars_append (nanosecond : Nat) :
    ∀ c ∈ (fractionChars nanosecond ++ rest).head?, c.isDigit = false := by
  have point {more : List Char} := @head?_cons_of_not_isDigit '.' more (by decide)
  unfold fractionChars
  split
  · exact stops
  split
  · exact point
  split
  · exact point
  · exact point

theorem nanoseconds?_fractionChars {nanosecond : Nat} (fits : nanosecond < 1000000000)
    (point : rest.head? ≠ some '.') :
    nanoseconds? (fractionChars nanosecond ++ rest) = some (nanosecond, rest) := by
  unfold fractionChars
  split
  · rename_i zero
    rw [zero, List.nil_append, nanoseconds?]
    rintro more rfl
    exact point rfl
  split
  · rw [List.cons_append, nanoseconds?, decimals?_padded stops (by decide) (by decide) (by omega)]
    congr 2
    omega
  split
  · rw [List.cons_append, nanoseconds?, decimals?_padded stops (by decide) (by decide) (by omega)]
    congr 2
    omega
  · rw [List.cons_append, nanoseconds?, decimals?_padded stops (by decide) (by decide) (by omega)]
    congr 2
    omega

end

theorem time?_clockChars (time : TimeOfDay) {rest : List Char}
    (stops : ∀ c ∈ rest.head?, c.isDigit = false) (point : rest.head? ≠ some '.') :
    time? (clockChars time ++ (fractionChars time.nanosecond ++ rest)) = some (time, rest) := by
  obtain ⟨hour, minute, second, nanosecond⟩ := lt_of_time time
  have colon {more : List Char} := @head?_cons_of_not_isDigit ':' more (by decide)
  have behind := head?_fractionChars_append stops time.nanosecond
  have fields : TimeOfDay.ofFields? time.hour time.minute time.second time.nanosecond = some time :=
    dif_pos time.exists_time
  simp only [time?, clockChars, List.append_assoc, List.cons_append,
    Option.bind_eq_bind, Option.bind_some, mark?_cons _ (show Text.isBlank ':' = false by decide),
    field?_padded colon (show time.hour < 100 by omega),
    field?_padded colon (show time.minute < 100 by omega), field?_padded behind second,
    nanoseconds?_fractionChars stops nanosecond point, fields]
  rfl

/-- A clock at the prime meridian is right. -/
theorem shift?_zero (date : Date) (time : TimeOfDay) : shift? date time 0 = some ⟨date, time⟩ := by
  obtain ⟨hour, minute, -, -⟩ := lt_of_time time
  have fields : TimeOfDay.ofFields? time.hour time.minute time.second time.nanosecond = some time :=
    dif_pos time.exists_time
  have ofDay : (((time.hour * 60 + time.minute - 0 : Int)) % 1440).toNat
      = time.hour * 60 + time.minute := by omega
  have hours : (time.hour * 60 + time.minute) / 60 = time.hour := by omega
  have minutes : (time.hour * 60 + time.minute) % 60 = time.minute := by omega
  unfold shift?
  rw [if_neg (by omega), if_pos (by omega)]
  simp only [ofDay, hours, minutes, fields]
  rfl

end Calendar

/-- **A timestamp is read back as it is written**, in whatever year it lies. -/
theorem Timestamp.read?_write (timestamp : Timestamp) : read? timestamp.write = some timestamp := by
  obtain ⟨date, time⟩ := timestamp
  have readDate (rest : List Char) := Calendar.date?_dateChars date
    (@Calendar.head?_cons_of_not_isDigit 'T' rest (by decide))
  have readTime := Calendar.time?_clockChars time
    (@Calendar.head?_cons_of_not_isDigit 'Z' [] (by decide)) (by decide)
  have divider (rest : List Char) : Calendar.divider? ('T' :: rest) = some rest := rfl
  have zone : Calendar.offset? ['Z'] = some (0, []) := by decide
  simp only [read?, write, String.toList_ofList, List.append_assoc, List.cons_append, readDate,
    readTime, divider, zone, Option.bind_eq_bind, Option.bind_some, List.all_nil, if_true]
  exact Calendar.shift?_zero date time

end CollectiveChoice

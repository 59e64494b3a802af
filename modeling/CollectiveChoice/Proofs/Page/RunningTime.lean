import CollectiveChoice.Duration
import CollectiveChoice.Proofs.Number.Rounding

/-!
# Running times in their units

A running time is shown as an amount of milliseconds, of tenths of a second, or of minutes and
seconds (`Duration.Amount`).  Which of them it is depends on the duration itself, and so does the
amount: milliseconds and seconds are counted off, while tenths are rounded to the nearest
(`Duration.exists_measures`).  Double precision does not matter for them, except that it decides
between two tenths that are equally near (`Duration.tenths_bounds`).

An amount is normal if it is below the next larger unit.  Counting off keeps an amount below it, and
rounding does not: in the last twentieth of a second before the minute, the tenths are rounded up to
sixty seconds.  These are the only durations that are not shown in their unit
(`Duration.isNormal_display_iff`).
-/

namespace CollectiveChoice

set_option autoImplicit false

/-! ## Numbers with one decimal -/

namespace Number

/-- With a zero in front of single digits, the last digit is one of two at least. -/
theorem padLeft_two_toDigits (n : Nat) :
    padLeft 2 (Nat.toDigits 10 n) = Nat.toDigits 10 (n / 10) ++ [Nat.digitChar (n % 10)] := by
  by_cases single : n < 10
  · rw [Nat.div_eq_of_lt single, Nat.mod_eq_of_lt single, Nat.toDigits_of_lt_base single]
    rfl
  · have double := Nat.toDigits_of_base_le (by decide) (Nat.le_of_not_lt single)
    have front := List.length_pos_iff.mpr (@Nat.toDigits_ne_nil (n / 10) 10)
    have enough : 2 - (Nat.toDigits 10 n).length = 0 := by
      rw [double, List.length_append, List.length_singleton]
      omega
    rw [padLeft, enough, List.replicate_zero, List.nil_append, double]

/-- A number with one decimal is written as its tenths, with a point in front of the last digit. -/
theorem fixed_one {number : Rat} (nonneg : 0 ≤ number) :
    fixed 1 number = Text.decimalNat (nearestMagnitude (number * 10) / 10) ++ "." ++
      Text.decimalNat (nearestMagnitude (number * 10) % 10) := by
  have ten : ((Nat.pow 10 1 : Nat) : Rat) = 10 := by norm_num
  simp only [fixed, ten, if_neg (not_lt.mpr nonneg)]
  generalize nearestMagnitude (number * 10) = tenths
  have digits := padLeft_two_toDigits tenths
  have digit : Nat.toDigits 10 (tenths % 10) = [Nat.digitChar (tenths % 10)] :=
    Nat.toDigits_of_lt_base (Nat.mod_lt tenths (by decide))
  apply String.toList_injective
  simp [Text.decimalNat, digits, digit]

end Number

namespace Duration

variable {duration : Duration}

/-! ## Amounts -/

/-- An amount of time as it is shown. -/
inductive Amount where
  /-- Whole milliseconds. -/
  | milliseconds (count : Nat)
  /-- Seconds with one decimal. -/
  | seconds (tenths : Nat)
  /-- Whole minutes with whole seconds. -/
  | minutes (count rest : Nat)
deriving DecidableEq, Repr

namespace Amount

/-- How an amount is written: `850ms`, `2.4s` or `3m05s`. -/
def text : Amount → String
  | .milliseconds count => Text.decimalNat count ++ "ms"
  | .seconds tenths =>
    Text.decimalNat (tenths / 10) ++ "." ++ Text.decimalNat (tenths % 10) ++ "s"
  | .minutes count rest =>
    Text.decimalNat count ++ "m" ++
      String.ofList [Nat.digitChar (rest / 10), Nat.digitChar (rest % 10)] ++ "s"

/-- Amounts that make up one of their unit at least, milliseconds apart, and do not reach the next
larger unit. -/
inductive Normal : Amount → Prop
  | milliseconds {count : Nat} (below : count < 1000) : Normal (.milliseconds count)
  | seconds {tenths : Nat} (one : 10 ≤ tenths) (below : tenths < 600) : Normal (.seconds tenths)
  | minutes {count rest : Nat} (one : 1 ≤ count) (below : rest < 60) :
      Normal (.minutes count rest)

/-- The amount that a duration comes to in its unit, where tenths of a second may be off by half of
one. -/
inductive Measures (duration : Duration) : Amount → Prop
  | milliseconds {count : Nat} (short : duration.nanoseconds < 1000000000)
      (counted : count = duration.nanoseconds / 1000000) : Measures duration (.milliseconds count)
  | seconds {tenths : Nat} (second : 1000000000 ≤ duration.nanoseconds)
      (short : duration.nanoseconds < 60000000000)
      (below : duration.nanoseconds ≤ tenths * 100000000 + 50000000)
      (above : tenths * 100000000 ≤ duration.nanoseconds + 50000000) :
      Measures duration (.seconds tenths)
  | minutes {count rest : Nat} (minute : 60000000000 ≤ duration.nanoseconds)
      (counted : count = duration.nanoseconds / 60000000000)
      (left : rest = duration.nanoseconds / 1000000000 % 60) :
      Measures duration (.minutes count rest)

/-- No normal amount is written as sixty seconds. -/
theorem Normal.text_ne_sixty {amount : Amount} (normal : amount.Normal) :
    amount.text ≠ "60.0s" := by
  intro same
  have chars := congrArg String.toList same
  have minute : 'm' ∉ "60.0s".toList := by decide
  cases normal with
  | milliseconds =>
      refine minute (chars ▸ ?_)
      simp [text]
  | minutes =>
      refine minute (chars ▸ ?_)
      simp [text]
  | @seconds tenths one below =>
      -- The digits before the point are those of sixty, and sixty is too much.
      have digits := congrArg (List.takeWhile Char.isDigit) chars
      simp only [text, String.toList_append, List.append_assoc, Text.decimalNat,
        String.toList_ofList] at digits
      rw [Text.takeWhile_isDigit_append Text.isDigit_of_mem_toDigits (by simp)] at digits
      have read := Text.readDigits?_toDigits (tenths / 10)
      rw [digits] at read
      have sixty : 60 = tenths / 10 := Option.some.inj read
      omega

end Amount

/-- Whether a text shows an amount in its unit. -/
def IsNormal (text : String) : Prop :=
  ∃ amount : Amount, amount.Normal ∧ text = amount.text

theorem not_isNormal_sixty : ¬IsNormal "60.0s" := by
  rintro ⟨amount, normal, same⟩
  exact normal.text_ne_sixty same.symm

/-! ## Seconds in double precision -/

/-- Three roundings change a duration by three small parts of it. -/
theorem abs_inSeconds_sub_le (duration : Duration) :
    |duration.inSeconds - duration.nanoseconds / 1000000000|
      ≤ duration.nanoseconds / 1000000000 * 4 / 2 ^ 53 := by
  have split : (duration.nanoseconds : Rat) / 1000000000
      = duration.seconds + (duration.fraction : Rat) / 1000000000 := by
    have division : duration.seconds * 1000000000 + duration.fraction = duration.nanoseconds :=
      Nat.div_add_mod' duration.nanoseconds 1000000000
    rw [← division]
    push_cast
    field_simp
  have whole : (0 : Rat) ≤ duration.seconds := Nat.cast_nonneg _
  have part : (0 : Rat) ≤ (duration.fraction : Rat) / 1000000000 := by positivity
  have sum := add_nonneg (Number.toDouble_bounds whole).1 (Number.toDouble_bounds part).1
  have wholeNear := abs_sub_le_iff.mp (Number.abs_toDouble_sub_le whole)
  have partNear := abs_sub_le_iff.mp (Number.abs_toDouble_sub_le part)
  have sumNear := abs_sub_le_iff.mp (Number.abs_toDouble_sub_le sum)
  rw [split, inSeconds, abs_sub_le_iff]
  constructor
  · linarith
  · linarith

theorem inSeconds_nonneg (duration : Duration) : 0 ≤ duration.inSeconds := by
  have near := (abs_sub_le_iff.mp duration.abs_inSeconds_sub_le).2
  have exact : (0 : Rat) ≤ duration.nanoseconds / 1000000000 := by positivity
  linarith

/-- The tenths of a second are off by half of one at most. -/
theorem tenths_bounds (duration : Duration) (short : duration.nanoseconds < 60000000000) :
    duration.nanoseconds
        ≤ Number.nearestMagnitude (duration.inSeconds * 10) * 100000000 + 50000000 ∧
      Number.nearestMagnitude (duration.inSeconds * 10) * 100000000
        ≤ duration.nanoseconds + 50000000 := by
  have tenfold : 0 ≤ duration.inSeconds * 10 := by
    have nonneg := duration.inSeconds_nonneg
    positivity
  have near := abs_sub_le_iff.mp duration.abs_inSeconds_sub_le
  have nearest := abs_sub_le_iff.mp (Number.abs_nearestMagnitude_sub_le tenfold)
  have minute : (duration.nanoseconds : Rat) < 60000000000 := by exact_mod_cast short
  generalize Number.nearestMagnitude (duration.inSeconds * 10) = tenths at nearest ⊢
  -- What binary rounding adds is less than a nanosecond, and all else is a whole number of them.
  have below : (duration.nanoseconds : Rat) < tenths * 100000000 + 50000000 + 1 := by linarith
  have above : (tenths : Rat) * 100000000 < duration.nanoseconds + 50000000 + 1 := by linarith
  norm_cast at below above
  omega

/-! ## What is shown -/

/-- Every duration is shown as what it comes to in its unit. -/
theorem exists_measures (duration : Duration) :
    ∃ amount : Amount, amount.Measures duration ∧ duration.display = amount.text := by
  have seconds : duration.seconds = duration.nanoseconds / 1000000000 := rfl
  simp only [display]
  split
  case isTrue brief => exact ⟨_, .milliseconds (by omega) rfl, rfl⟩
  split
  case isTrue second short =>
    obtain ⟨below, above⟩ := duration.tenths_bounds (by omega)
    refine ⟨_, .seconds (by omega) (by omega) below above, ?_⟩
    rw [Number.fixed_one duration.inSeconds_nonneg]
    rfl
  case isFalse _ minute =>
    refine ⟨.minutes (duration.seconds / 60) (duration.seconds % 60),
      .minutes (by omega) (by omega) (by omega), ?_⟩
    have tens : duration.seconds % 60 / 10 < 10 := by omega
    simp only [Number.padLeft_two_toDigits, Nat.toDigits_of_lt_base tens]
    rfl

/-- Half of a tenth before the minute, the nearest number in double precision is above it. -/
theorem display_tie : (⟨59950000000⟩ : Duration).display = "60.0s" := by
  decide +kernel

/-- From there to the minute, tenths of a second are rounded up to sixty seconds. -/
theorem display_eq_sixty (late : 59950000000 ≤ duration.nanoseconds)
    (short : duration.nanoseconds < 60000000000) : duration.display = "60.0s" := by
  rcases late.eq_or_lt with tie | later
  · rw [show duration = ⟨59950000000⟩ from congrArg Duration.mk tie.symm]
    exact display_tie
  · obtain ⟨amount, measures, shown⟩ := duration.exists_measures
    cases measures with
    | milliseconds brief => omega
    | minutes minute => omega
    | @seconds tenths _ _ below above =>
        obtain rfl : tenths = 600 := by omega
        rw [shown]
        decide

/-- Before that and from the minute on, the amount is normal. -/
theorem isNormal_display
    (early : ¬(59950000000 ≤ duration.nanoseconds ∧ duration.nanoseconds < 60000000000)) :
    IsNormal duration.display := by
  obtain ⟨amount, measures, shown⟩ := duration.exists_measures
  refine ⟨amount, ?_, shown⟩
  cases measures with
  | milliseconds brief counted => exact .milliseconds (by omega)
  | minutes minute counted left => exact .minutes (by omega) (by omega)
  | seconds second short below above => exact .seconds (by omega) (by omega)

/-- **Running times are shown in their units, up to the last twentieth of a second before the
minute.**  Every duration is shown as the amount that it comes to in milliseconds, tenths of a second,
or minutes and seconds.  This amount reaches the next larger unit just if the duration is
less than a minute and a twentieth of a second short of it at most, and then sixty seconds are
shown. -/
theorem isNormal_display_iff (duration : Duration) :
    (∃ amount : Amount, amount.Measures duration ∧ duration.display = amount.text) ∧
    (IsNormal duration.display
      ↔ ¬(59950000000 ≤ duration.nanoseconds ∧ duration.nanoseconds < 60000000000)) ∧
    (duration.display = "60.0s"
      ↔ 59950000000 ≤ duration.nanoseconds ∧ duration.nanoseconds < 60000000000) := by
  have late : 59950000000 ≤ duration.nanoseconds ∧ duration.nanoseconds < 60000000000
      → duration.display = "60.0s" :=
    fun between => display_eq_sixty between.1 between.2
  refine ⟨duration.exists_measures, ⟨?_, isNormal_display⟩, ⟨?_, late⟩⟩
  · intro normal between
    rw [late between] at normal
    exact not_isNormal_sixty normal
  · intro sixty
    by_contra early
    have normal := isNormal_display early
    rw [sixty] at normal
    exact not_isNormal_sixty normal

/-- Three hundredths of a second before the minute, sixty seconds are shown. -/
theorem almostMinute_not_isNormal : ¬IsNormal (⟨59970000000⟩ : Duration).display := by
  rw [display_eq_sixty (by decide) (by decide)]
  exact not_isNormal_sixty

end Duration

end CollectiveChoice

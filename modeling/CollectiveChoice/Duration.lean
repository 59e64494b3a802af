import CollectiveChoice.Number.Rounding

/-!
# Running times

A duration is a number of nanoseconds.  It is shown in milliseconds below a second, in seconds with
one decimal below a minute, and in minutes and seconds from there on.  The number of seconds with
decimals is a number of double precision: the whole seconds plus the quotient of the nanoseconds.
-/

namespace CollectiveChoice

set_option autoImplicit false

/-- A span of time. -/
structure Duration where
  /-- Its length in nanoseconds. -/
  nanoseconds : Nat
deriving DecidableEq, Repr, Inhabited

namespace Duration

/-- The duration of a number of seconds. -/
def ofSeconds (seconds : Nat) : Duration :=
  ⟨seconds * 1000000000⟩

/-- The duration of a number of milliseconds. -/
def ofMilliseconds (milliseconds : Nat) : Duration :=
  ⟨milliseconds * 1000000⟩

/-- The whole seconds. -/
def seconds (duration : Duration) : Nat :=
  duration.nanoseconds / 1000000000

/-- The nanoseconds beyond the whole seconds. -/
def fraction (duration : Duration) : Nat :=
  duration.nanoseconds % 1000000000

/-- The length in seconds, in double precision. -/
def inSeconds (duration : Duration) : Rat :=
  let part := Number.toDouble ((duration.fraction : Rat) / 1000000000)
  Number.toDouble (Number.toDouble (duration.seconds : Rat) + part)

/-- The length in the unit that suits it: `850ms`, `2.4s` or `3m05s`. -/
def display (duration : Duration) : String :=
  let seconds := duration.seconds
  if seconds < 1 then Text.decimalNat (duration.nanoseconds / 1000000) ++ "ms"
  else if seconds < 60 then Number.fixed 1 duration.inSeconds ++ "s"
  else
    let rest := Number.padLeft 2 (Nat.toDigits 10 (seconds % 60))
    Text.decimalNat (seconds / 60) ++ "m" ++ String.ofList rest ++ "s"

/-- The length in its largest unit with all decimals it needs, as `100ms`, `1.5s` or `0ns`. -/
def exact (duration : Duration) : String :=
  let digitsOf (amount unit places : Nat) (suffix : String) : String :=
    let fraction := Number.padLeft places (Nat.toDigits 10 (amount % unit))
    let kept := (fraction.reverse.dropWhile (· == '0')).reverse
    Text.decimalNat (amount / unit) ++
      (if kept.isEmpty then "" else "." ++ String.ofList kept) ++ suffix
  let nanoseconds := duration.nanoseconds
  if 1000000000 ≤ nanoseconds then digitsOf nanoseconds 1000000000 9 "s"
  else if 1000000 ≤ nanoseconds then digitsOf nanoseconds 1000000 6 "ms"
  else if 1000 ≤ nanoseconds then digitsOf nanoseconds 1000 3 "µs"
  else digitsOf nanoseconds 1 0 "ns"

end Duration

end CollectiveChoice

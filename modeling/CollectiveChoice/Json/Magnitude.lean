import CollectiveChoice.Number.Rounding

/-!
# Magnitudes of numbers in JSON text

A number in a text may have more digits than any number of limited precision needs.  Of its digits
those are kept that make up a significand of one machine word; digits left out before the point
count in the power of ten that scales the significand, digits left out behind it do not count.
Digits behind the point follow those kept before it, also where some before it are left out.

A number is within range when its significand and its power of ten, each rounded to double
precision, have a finite product in double precision.  A number so small that it rounds to zero is
within range.
-/

namespace CollectiveChoice.Magnitude

set_option autoImplicit false

/-! ## Digits that are kept -/

/-- Takes digits onto a significand as long as it stays a machine word, and leaves the others. -/
def takeDigits (significand : Nat) : List Char → Nat × List Char
  | [] => (significand, [])
  | digit :: rest =>
    let longer := 10 * significand + (digit.toNat - '0'.toNat)
    if Text.isWord64 longer then takeDigits longer rest else (significand, digit :: rest)

/-- The significand of a number and the power of ten that scales it, given the digits before and
behind the point. -/
def kept (whole fraction : List Char) : Nat × Int :=
  let (leading, left) := takeDigits 0 whole
  let (significand, ignored) := takeDigits leading fraction
  (significand, (left.length : Int) + (ignored.length : Int) - (fraction.length : Int))

/-! ## Range -/

/-- The midpoint between the greatest number of double precision and the next power of two.  From
there on numbers round to infinity. -/
def infinityBound : Rat :=
  ((Nat.pow 2 1024 - Nat.pow 2 970 : Nat) : Rat)

/-- The greatest power of ten of double precision. -/
def greatestTen : Int := 308

/-- Whether a significand and the power of ten that scales it have a finite product. -/
def isFinite (significand : Nat) (exponent : Int) : Bool :=
  if significand = 0 || exponent < 0 then true
  else if greatestTen < exponent then false
  else
    let ten : Rat := ((Nat.pow 10 exponent.toNat : Nat) : Rat)
    Number.toDouble (significand : Rat) * Number.toDouble ten < infinityBound

end CollectiveChoice.Magnitude

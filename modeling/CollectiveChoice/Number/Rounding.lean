import CollectiveChoice.Text.Numeral

/-!
# Rounding to binary and decimal precision

Charts and running times are computed in binary arithmetic of limited precision and printed with a
fixed number of decimals.  Both steps round to the nearest representable number, a tie going to the
even neighbour, and both are done on exact fractions here: a number of limited precision is the
fraction it stands for, an operation is the exact one followed by a rounding.

The exponent of a number is not bounded here; where a number can leave the range of its precision,
the module that computes it says what becomes of it.
-/

namespace CollectiveChoice.Number

set_option autoImplicit false

/-! ## Nearest integers -/

/-- The natural number nearest to a quotient, the even one of two equally near. -/
def nearestQuotient (numerator denominator : Nat) : Nat :=
  let quotient := numerator / denominator
  let twice := 2 * (numerator % denominator)
  if twice < denominator then quotient
  else if denominator < twice then quotient + 1
  else quotient + quotient % 2

/-- The magnitude of the integer nearest to a number, the even one of two equally near. -/
def nearestMagnitude (number : Rat) : Nat :=
  nearestQuotient number.num.natAbs number.den

/-! ## Binary precision -/

/-- The number times a power of two. -/
def scale (number : Rat) (exponent : Int) : Rat :=
  match exponent with
  | .ofNat up => number * ((Nat.pow 2 up : Nat) : Rat)
  | .negSucc down => number / ((Nat.pow 2 (down + 1) : Nat) : Rat)

/-- The exponent of the greatest power of two not above the magnitude of a number. -/
def binaryExponent (number : Rat) : Int :=
  let estimate : Int := (Nat.log2 number.num.natAbs : Int) - (Nat.log2 number.den : Int)
  let magnitude := if number < 0 then -number else number
  if magnitude < scale 1 estimate then estimate - 1 else estimate

/-- The nearest number whose significand has a given number of binary digits. -/
def toPrecision (digits : Nat) (number : Rat) : Rat :=
  if number = 0 then 0
  else
    let exponent := binaryExponent number - ((digits : Int) - 1)
    let magnitude := scale ((nearestMagnitude (scale number (-exponent)) : Nat) : Rat) exponent
    if number < 0 then -magnitude else magnitude

/-- The nearest number of double precision. -/
def toDouble (number : Rat) : Rat :=
  toPrecision 53 number

/-- The nearest number of single precision. -/
def toSingle (number : Rat) : Rat :=
  toPrecision 24 number

/-! ## Fixed decimals -/

/-- A text with zeros in front of it up to a length. -/
def padLeft (length : Nat) (digits : List Char) : List Char :=
  List.replicate (length - digits.length) '0' ++ digits

/-- A number with a fixed number of decimals. -/
def fixed (places : Nat) (number : Rat) : String :=
  let shifted := nearestMagnitude (number * ((Nat.pow 10 places : Nat) : Rat))
  let digits := padLeft (places + 1) (Nat.toDigits 10 shifted)
  let whole := digits.take (digits.length - places)
  let fraction := digits.drop (digits.length - places)
  let sign := if number < 0 then ['-'] else []
  String.ofList (sign ++ whole ++ (if places = 0 then [] else '.' :: fraction))

end CollectiveChoice.Number

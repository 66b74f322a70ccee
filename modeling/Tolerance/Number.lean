import Tolerance.Text.Numeral

namespace Tolerance

/-!
# The value of a number

Two numbers may be written differently and still be the same.  A whole number
has exactly its value.  A number with a fraction or an exponent has the value of
the nearest binary64 number, and a value halfway between two of them goes to the
one with the even significand.
-/

/-- What a number stands for. -/
inductive Number where
  | finite (value : Dyadic)
  | infinite (negative : Bool)
  | undefined
  deriving DecidableEq

namespace Number

/-- The value of a whole number. -/
def ofInt (number : Int) : Number :=
  .finite (Dyadic.ofInt number)

/-- The count of binary digits in a significand. -/
def significantDigits : Nat :=
  53

/-- The exponent of the smallest positive binary64 number, a power of two. -/
def leastExponent : Int :=
  -1074

/-- The exponent of the power of two that is too large for binary64. -/
def overflowExponent : Nat :=
  1024

/-- A natural number times a power of two, as far as the power is a whole number. -/
def scaled (number : Nat) (exponent : Int) : Nat :=
  number * Nat.pow 2 exponent.toNat

/-- A quotient rounded to the nearest natural number, a half to the even one. -/
def roundQuotient (numerator denominator : Nat) : Nat :=
  let whole := numerator / denominator
  let twice := 2 * (numerator % denominator)
  if denominator < twice ∨ (twice = denominator ∧ whole % 2 = 1) then
    whole + 1
  else
    whole

/-- The exponent of the greatest power of two that a positive quotient reaches. -/
def binaryOrder (numerator denominator : Nat) : Int :=
  let guess : Int := (numerator.log2 : Int) - (denominator.log2 : Int)
  if scaled numerator (-guess) < scaled denominator guess then
    guess - 1
  else
    guess

/-- A natural number with a sign. -/
def withSign (negative : Bool) (number : Nat) : Int :=
  if negative then -(number : Int) else number

/-- The binary64 number nearest to a quotient with the given sign. -/
def ofQuotient (negative : Bool) (numerator denominator : Nat) : Number :=
  if numerator = 0 then
    .finite 0
  else
    let order := binaryOrder numerator denominator
    let exponent := max (order - (significantDigits - 1)) leastExponent
    let significand :=
      roundQuotient (scaled numerator (-exponent)) (scaled denominator exponent)
    if Nat.pow 2 overflowExponent ≤ scaled significand exponent then
      .infinite negative
    else
      .finite (Dyadic.ofIntWithPrec (withSign negative significand) (-exponent))

/--
A count of decimal places so large that every number with its first digit as
far above the point is infinite, and every one as far below it is zero.
-/
def farPlace : Int :=
  400

/--
The binary64 number nearest to digits times a power of ten.  A power far out of
range is not computed.
-/
def ofScientific (negative : Bool) (digits : List Nat) (exponent : Int) : Number :=
  let significant := digits.dropWhile (· == 0)
  let place := (significant.length : Int) + exponent
  if significant.isEmpty || place < -farPlace then
    .finite 0
  else if farPlace < place then
    .infinite negative
  else
    ofQuotient negative
      (Numeral.valueOfDigits significant * Nat.pow 10 exponent.toNat)
      (Nat.pow 10 (-exponent).toNat)

/-- The values of the decimal digits in a text. -/
def digitValues (text : Text) : List Nat :=
  (text.filter CodePoint.isDigit).map fun digit => digit.val - 0x30

/-- A code point that begins an exponent. -/
def isExponentMark (point : CodePoint) : Bool :=
  point == 0x65 || point == 0x45

/-- The exponent in a text that begins with the mark of one, or 0. -/
def exponentIn (text : Text) : Int :=
  withSign (text.contains 0x2d) (Numeral.valueOfDigits (digitValues text))

/-- The value of a number in the notation of JSON. -/
def ofText (written : Text) : Number :=
  if written = "NaN" then
    .undefined
  else if written = "Infinity" then
    .infinite false
  else if written = "-Infinity" then
    .infinite true
  else
    let significand := written.takeWhile fun point => !isExponentMark point
    let exponent := exponentIn (written.dropWhile fun point => !isExponentMark point)
    let fraction := digitValues (significand.dropWhile (· != 0x2e))
    ofScientific (written.head? == some 0x2d) (digitValues significand)
      (exponent - fraction.length)

end Number

end Tolerance

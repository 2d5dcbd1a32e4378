import Toasts.Decimal.Layout
import Toasts.Text.Blank

/-!
From decimal digits to double precision: the nearest number, and of two equally near ones the one
with the even mantissa. Beyond the largest number there is infinity.
-/

namespace Toasts.Decimal

def leadingBit (ratio : Ratio) : Int :=
  let guess : Int := (ratio.numerator.log2 : Int) - ratio.denominator.log2
  if ratio.below (Ratio.scaled 1 2 guess) then guess - 1 else guess

def leastMantissa : Nat := 4503599627370496

/-- The bits of the double-precision number nearest to a positive ratio. A mantissa that is rounded
up to the next power of two carries into the exponent, and past the largest number to infinity. -/
def nearestBits (ratio : Ratio) : Nat :=
  let exponent := max (leadingBit ratio - 52) (-1074)
  let mantissa := roundHalfEven (ratio.times (Ratio.scaled 1 2 (-exponent)))
  min ((exponent + 1074).toNat * leastMantissa + mantissa) (2047 * leastMantissa)

/-- The double-precision number nearest to a decimal that is not negative. Decimals far out of range
are not worked out. -/
def nearest (decimal : Scientific) : Float :=
  let power : Int := decimal.exponent + (digitChars decimal.digits).length
  if decimal.digits = 0 ∨ power < -400 then 0.0
  else if 400 < power then Float.ofBits (UInt64.ofNat (2047 * leastMantissa))
  else
    Float.ofBits (UInt64.ofNat
      (nearestBits (Ratio.scaled decimal.digits 10 decimal.exponent)))

def Scientific.ofDigits (whole fraction : List Char) (power : Int) : Scientific where
  digits := Text.digitsValue (whole ++ fraction)
  exponent := power - fraction.length

end Toasts.Decimal

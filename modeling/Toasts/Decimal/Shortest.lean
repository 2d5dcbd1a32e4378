import Toasts.Decimal.Binary

/-!
The fewest decimal digits that read back as the same floating-point number. On every grid of
decimals with one, two, three, … digits the two neighbours of the number are tried; the first grid
with a neighbour that rounds back to the number wins, and of two such neighbours the nearer one.
-/

namespace Toasts.Decimal

/-- The decimal number `digits * 10 ^ exponent`. -/
structure Scientific where
  digits : Nat
  exponent : Int
  deriving DecidableEq

/-- A fraction of natural numbers; the denominator is taken to be positive. -/
structure Ratio where
  numerator : Nat
  denominator : Nat

namespace Ratio

def scaled (number base : Nat) (exponent : Int) : Ratio :=
  if exponent < 0 then ⟨number, Nat.pow base exponent.natAbs⟩
  else ⟨number * Nat.pow base exponent.natAbs, 1⟩

def times (first second : Ratio) : Ratio :=
  ⟨first.numerator * second.numerator, first.denominator * second.denominator⟩

def below (first second : Ratio) : Bool :=
  first.numerator * second.denominator < second.numerator * first.denominator

def distance (first second : Ratio) : Ratio :=
  let left := first.numerator * second.denominator
  let right := second.numerator * first.denominator
  ⟨max left right - min left right, first.denominator * second.denominator⟩

end Ratio

/-- The positive number `mantissa * 2 ^ exponent` with the ends of the interval that rounds to it.
The ends belong to the interval when the mantissa is even. -/
structure Rounding where
  value : Ratio
  low : Ratio
  high : Ratio
  closed : Bool

def Rounding.of (mantissa : Nat) (exponent : Int) (lowest : Bool) : Rounding where
  value := Ratio.scaled (4 * mantissa) 2 (exponent - 2)
  low := Ratio.scaled (4 * mantissa - if lowest then 1 else 2) 2 (exponent - 2)
  high := Ratio.scaled (4 * mantissa + 2) 2 (exponent - 2)
  closed := mantissa % 2 == 0

def Rounding.holds (rounding : Rounding) (decimal : Scientific) : Bool :=
  let point := Ratio.scaled decimal.digits 10 decimal.exponent
  if rounding.closed then !point.below rounding.low && !rounding.high.below point
  else rounding.low.below point && point.below rounding.high

/-- The power of ten of the leading digit, found from a guess that is too low by at most `slack`. -/
def leadingPower (value : Ratio) : Nat → Int → Int
  | 0, power => power
  | slack + 1, power =>
      if value.below (Ratio.scaled 1 10 (power + 1)) then power
      else leadingPower value slack (power + 1)

def magnitude (mantissa : Nat) (exponent : Int) : Int :=
  let bits : Int := mantissa.log2 + exponent
  let guess := (bits * 30103).fdiv 100000 - 1
  leadingPower (Ratio.scaled mantissa 2 exponent) 4 guess

/-- The better neighbour of the number on the grid of decimals with this exponent, if one reads
back. Of two equally near ones the even one is better. -/
def neighbour (rounding : Rounding) (exponent : Int) : Option Scientific :=
  let onGrid := rounding.value.times (Ratio.scaled 1 10 (-exponent))
  let down : Scientific := ⟨onGrid.numerator / onGrid.denominator, exponent⟩
  let up : Scientific := ⟨down.digits + 1, exponent⟩
  match rounding.holds down, rounding.holds up with
  | false, false => none
  | true, false => some down
  | false, true => some up
  | true, true =>
      let toDown := Ratio.distance onGrid ⟨down.digits, 1⟩
      let toUp := Ratio.distance onGrid ⟨up.digits, 1⟩
      if toDown.below toUp then some down
      else if toUp.below toDown then some up
      else if down.digits % 2 = 0 then some down else some up

def search (rounding : Rounding) : Nat → Int → Scientific
  | 0, exponent => ⟨rounding.value.numerator / rounding.value.denominator, exponent⟩
  | tries + 1, exponent => (neighbour rounding exponent).getD (search rounding tries (exponent - 1))

def stripZeros : Nat → Scientific → Scientific
  | 0, decimal => decimal
  | tries + 1, decimal =>
      if decimal.digits ≠ 0 ∧ decimal.digits % 10 = 0 then
        stripZeros tries ⟨decimal.digits / 10, decimal.exponent + 1⟩
      else decimal

/-- The shortest decimal that reads back as `mantissa * 2 ^ exponent`; zero for a zero mantissa. No
number of double precision needs more than seventeen digits. -/
def shortest (mantissa : Nat) (exponent : Int) (lowest : Bool) : Scientific :=
  if mantissa = 0 then ⟨0, 0⟩
  else stripZeros 20 (search (Rounding.of mantissa exponent lowest) 17 (magnitude mantissa exponent))

end Toasts.Decimal

import Toasts.Text.Blank

/-!
The value of a JSON number from its spelling. Whole numbers that fit 64 bits stay whole. All others
become double-precision numbers: as many leading digits as fit 64 bits, multiplied or divided by a
power of ten, each step rounded by itself, so the result need not be the nearest one.
-/

namespace Toasts.Json

/-- A number as read: whole and not negative, whole and negative, or with a fraction. -/
inductive Number where
  | natural (value : UInt64)
  | negative (magnitude : Nat)
  | float (value : Float)

structure Numeral where
  negative : Bool
  whole : List Char
  fraction : Option (List Char) := none
  /-- Whether the power of ten is negative, and its digits. -/
  power : Option (Bool × List Char) := none

namespace Numeral

/-- Read the power of ten that may follow the digits; what follows the number is left. -/
def readPower (numeral : Numeral) (chars : List Char) : Option (Numeral × List Char) :=
  match chars with
  | [] => some (numeral, [])
  | mark :: rest =>
      if mark = 'e' ∨ mark = 'E' then
        let (negative, rest) := match rest with
          | '-' :: rest => (true, rest)
          | '+' :: rest => (false, rest)
          | rest => (false, rest)
        let digits := rest.takeWhile Text.isDigit
        if digits = [] then none
        else some ({ numeral with power := some (negative, digits) }, rest.dropWhile Text.isDigit)
      else some (numeral, chars)

/-- Read a number: no leading zeros and no sign but a minus. What follows the number is left. -/
def read (chars : List Char) : Option (Numeral × List Char) :=
  let (negative, chars) := match chars with
    | '-' :: rest => (true, rest)
    | chars => (false, chars)
  let whole := chars.takeWhile Text.isDigit
  let rest := chars.dropWhile Text.isDigit
  if whole = [] ∨ (whole.head? = some '0' ∧ whole.length ≠ 1) then none
  else match rest with
    | '.' :: rest =>
        let fraction := rest.takeWhile Text.isDigit
        if fraction = [] then none
        else readPower { negative, whole, fraction := some fraction } (rest.dropWhile Text.isDigit)
    | rest => readPower { negative, whole } rest

/-- Digits taken into a number of 64 bits until one does not fit, with the power of ten that the
number has to be multiplied by. -/
structure Significand where
  value : Nat := 0
  power : Int := 0
  full : Bool := false

def Significand.takeWhole (taken : Significand) (digit : Char) : Significand :=
  let value := taken.value * 10 + Text.digitValue digit
  if taken.full ∨ unsignedBound ≤ value then { taken with power := taken.power + 1, full := true }
  else { taken with value }

def Significand.takeFraction (taken : Significand) (digit : Char) : Significand :=
  let value := taken.value * 10 + Text.digitValue digit
  if taken.full ∨ unsignedBound ≤ value then { taken with full := true }
  else { taken with value, power := taken.power - 1 }

def significand (numeral : Numeral) : Significand :=
  let whole : Significand := numeral.whole.foldl Significand.takeWhole {}
  (numeral.fraction.getD []).foldl Significand.takeFraction { whole with full := false }

def shrink (value : Float) (places : Nat) : Float :=
  if _ : places ≤ 308 then value / Float.ofScientific 1 false places
  else if value == 0.0 then value
  else shrink (value / Float.ofScientific 1 false 308) (places - 308)
termination_by places

def scale (significand : Nat) (power : Int) : Option Float :=
  let value := Float.ofNat significand
  if power < 0 then some (shrink value power.natAbs)
  else if 308 < power then if value == 0.0 then some value else none
  else
    let scaled := value * Float.ofScientific 1 false power.natAbs
    if scaled.isInf then none else some scaled

/-- The double-precision value of a numeral, unless it is out of range. A power of more than 31 bits
is decided by its sign alone. -/
def toFloat? (numeral : Numeral) : Option Float :=
  let taken := numeral.significand
  let magnitude := match numeral.power with
    | none => scale taken.value taken.power
    | some (negative, digits) =>
        let power := Text.digitsValue digits
        if power < 2147483648 then
          scale taken.value (taken.power + if negative then -(power : Int) else power)
        else if taken.value ≠ 0 ∧ !negative then none
        else some 0.0
  magnitude.map fun value => if numeral.negative then -value else value

def value? (numeral : Numeral) : Option Number :=
  let whole := Text.digitsValue numeral.whole
  if numeral.fraction.isSome ∨ numeral.power.isSome ∨ unsignedBound ≤ whole then
    numeral.toFloat?.map .float
  else if !numeral.negative then some (.natural (UInt64.ofNat whole))
  else if whole = 0 ∨ signedBound < whole then some (.float (-Float.ofNat whole))
  else some (.negative whole)

end Numeral

namespace Number

def toDouble : Number → Float
  | .natural value => value.toFloat
  | .negative magnitude => -Float.ofNat magnitude
  | .float value => value

/-- The number in single precision, rounded from its whole value or from double precision. -/
def toSingle : Number → Float32
  | .natural value => value.toFloat32
  | .negative magnitude => -(UInt64.ofNat magnitude).toFloat32
  | .float value => value.toFloat32

end Number

def numberValue? (spelling : String) : Option Number :=
  (Numeral.read spelling.toList).bind fun read => read.1.value?

end Toasts.Json

import Toasts.Decimal.Shortest

/-!
How decimals are laid out as text: with a point and zeros, or with a power of ten. A `Layout` holds
the choices of one format.
-/

namespace Toasts.Decimal

/-- The choices of a format for floating-point numbers. The number with the leading digit at
`10 ^ p` is written with a point when `plainFrom ≤ p < plainBelow`, otherwise with a power of ten
if the format has one. -/
structure Layout where
  plainFrom : Int
  plainBelow : Int
  /-- Never use a power of ten. -/
  alwaysPlain : Bool := false
  /-- Write whole numbers with a zero after the point. -/
  wholeTenth : Bool := true
  /-- Write the sign of a positive power of ten. -/
  plusSign : Bool := true

def digitChars (number : Nat) : List Char := Nat.toDigits 10 number

def plain (wholeTenth : Bool) (decimal : Scientific) : String :=
  let digits := digitChars decimal.digits
  let tail := if wholeTenth then ".0" else ""
  if 0 ≤ decimal.exponent then
    String.ofList (digits ++ List.replicate decimal.exponent.natAbs '0') ++ tail
  else
    let places := decimal.exponent.natAbs
    let padded := List.replicate (places + 1 - digits.length) '0' ++ digits
    let whole := padded.length - places
    String.ofList (padded.take whole ++ '.' :: padded.drop whole)

def powered (plusSign : Bool) (decimal : Scientific) : String :=
  let digits := digitChars decimal.digits
  let power : Int := decimal.exponent + (digits.length - 1)
  let fraction := match digits.tail with
    | [] => ""
    | rest => "." ++ String.ofList rest
  let sign := if power < 0 then "-" else if plusSign then "+" else ""
  String.ofList (digits.take 1) ++ fraction ++ "e" ++ sign ++ toString power.natAbs

def Layout.write (layout : Layout) (decimal : Scientific) : String :=
  let power : Int := decimal.exponent + ((digitChars decimal.digits).length - 1)
  if layout.alwaysPlain || decimal.digits == 0 ||
      (layout.plainFrom ≤ power && power < layout.plainBelow) then
    plain layout.wholeTenth decimal
  else powered layout.plusSign decimal

/-- Write a floating-point number with the fewest digits that read back. -/
def Layout.render (layout : Layout) : Binary → String
  | .nan => "NaN"
  | .infinite negative => if negative then "-inf" else "inf"
  | .finite negative mantissa exponent lowest =>
      (if negative then "-" else "") ++ layout.write (shortest mantissa exponent lowest)

def singleJson : Layout := { plainFrom := -6, plainBelow := 13 }

def doubleJson : Layout := { plainFrom := -5, plainBelow := 16 }

def plainText : Layout :=
  { plainFrom := 0, plainBelow := 0, alwaysPlain := true, wholeTenth := false }

def diagnostic : Layout := { plainFrom := -4, plainBelow := 16, plusSign := false }

def roundHalfEven (ratio : Ratio) : Nat :=
  let whole := ratio.numerator / ratio.denominator
  let rest := 2 * (ratio.numerator % ratio.denominator)
  if rest < ratio.denominator then whole
  else if ratio.denominator < rest then whole + 1
  else whole + whole % 2

/-- Write a floating-point number with this many places after the point, rounded from its exact
value. -/
def fixed (places : Nat) : Binary → String
  | .nan => "NaN"
  | .infinite negative => if negative then "-inf" else "inf"
  | .finite negative mantissa exponent _ =>
      let scaled := (Ratio.scaled mantissa 2 exponent).times ⟨Nat.pow 10 places, 1⟩
      (if negative then "-" else "") ++ plain false ⟨roundHalfEven scaled, -(places : Int)⟩

end Toasts.Decimal

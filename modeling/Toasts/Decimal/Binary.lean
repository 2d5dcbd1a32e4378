/-!
Floating-point numbers taken apart: sign, whole mantissa and power of two. What is printed or
computed exactly is said about these parts.
-/

namespace Toasts.Decimal

inductive Binary where
  | nan
  | infinite (negative : Bool)
  /-- The number `mantissa * 2 ^ exponent`, negated if the flag says so. It is `lowest` when its
  mantissa is the least of its power of two, so that the number below is only half as far away as
  the number above. -/
  | finite (negative : Bool) (mantissa : Nat) (exponent : Int) (lowest : Bool)
  deriving DecidableEq

namespace Binary

/-- Take a bit pattern apart that has this many bits for the fraction and for the exponent. -/
def ofBits (fractionBits exponentBits bits : Nat) : Binary :=
  let fraction := bits % Nat.pow 2 fractionBits
  let biased := bits / Nat.pow 2 fractionBits % Nat.pow 2 exponentBits
  let negative := bits / Nat.pow 2 (fractionBits + exponentBits) % 2 == 1
  let least : Int := 2 - Nat.pow 2 (exponentBits - 1) - fractionBits
  if biased = Nat.pow 2 exponentBits - 1 then
    if fraction = 0 then .infinite negative else .nan
  else if biased = 0 then .finite negative fraction least false
  else .finite negative (fraction + Nat.pow 2 fractionBits) (least + (biased - 1))
    (fraction == 0 && biased ≠ 1)

def ofSingle (number : Float32) : Binary := ofBits 23 8 number.toBits.toNat

def ofDouble (number : Float) : Binary := ofBits 52 11 number.toBits.toNat

end Binary

end Toasts.Decimal

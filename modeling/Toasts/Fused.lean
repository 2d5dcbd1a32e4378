/-!
Multiplication and addition of single-precision numbers with one rounding at the end.
-/

namespace Toasts

open Float.Model Float.Model.UnpackedFloat

/-- The number `factor * other + term`, rounded once. A finite product of finite non-zero factors
is added exactly; in every other case the product itself needs no rounding. -/
def fusedMulAdd (factor other term : Float32) : Float32 :=
  match factor.toModel.unpack, other.toModel.unpack, term.toModel.unpack with
  | .finite sign₁ mantissa₁ exponent₁ _, .finite sign₂ mantissa₂ exponent₂ _,
      .finite sign₃ mantissa₃ exponent₃ _ =>
      let exponent := exponent₁ + exponent₂
      let least := min exponent exponent₃
      let product :=
        (sign₁ * sign₂).apply (mantissa₁ * mantissa₂ * Nat.pow 2 (exponent - least).toNat)
      let addend := sign₃.apply (mantissa₃ * Nat.pow 2 (exponent₃ - least).toNat)
      .ofModel (.pack (normalize .binary32 (product + addend) least .positive))
  | .finite .., .finite .., .zero _ => factor * other
  | .finite .., .finite .., .infinity _ => term
  | _, _, _ => factor * other + term

end Toasts

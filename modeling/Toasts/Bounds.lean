/-!
The bounds of whole numbers that are kept in 64 bits.
-/

namespace Toasts

/-- A natural number fits 64 bits when it is below this: 2⁶⁴. -/
def unsignedBound : Nat := 18446744073709551616

/-- A whole number fits 64 bits with its sign when it is below this and its opposite is not above
this: 2⁶³. -/
def signedBound : Nat := 9223372036854775808

end Toasts

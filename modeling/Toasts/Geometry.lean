import Toasts.Fused

/-!
Points and boxes on the screen, in pixels from the top left corner.
-/

namespace Toasts

structure Point where
  x : Float32
  y : Float32
  deriving DecidableEq

/-- An axis-aligned box: its top left corner and its sides. -/
structure Rect where
  x : Float32
  y : Float32
  width : Float32
  height : Float32
  deriving DecidableEq

namespace Rect

/-- The middle of the box, each coordinate rounded once. -/
def center (rect : Rect) : Point where
  x := fusedMulAdd rect.width 0.5 rect.x
  y := fusedMulAdd rect.height 0.5 rect.y

/-- Whether motion can be measured on the box: all of it is finite and it has an area. -/
def isMeasurable (rect : Rect) : Bool :=
  rect.x.isFinite && rect.y.isFinite && rect.width.isFinite && rect.height.isFinite &&
    decide (rect.width > 0.0) && decide (rect.height > 0.0)

def centerOffsetTo (rect other : Rect) : Point where
  x := other.center.x - rect.center.x
  y := other.center.y - rect.center.y

end Rect

end Toasts

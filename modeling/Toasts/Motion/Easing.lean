/-!
Timing curves: how linear progress through a motion becomes eased progress. A curve is given by the
two inner control points of a cubic Bézier curve from (0, 0) to (1, 1).
-/

namespace Toasts

inductive Easing where
  | linear
  | easeIn
  | easeOut
  | easeInOut
  /-- The curve through the control points `(x1, y1)` and `(x2, y2)`. -/
  | cubicBezier (x1 y1 x2 y2 : Float32)
  deriving DecidableEq

namespace Easing

def coordinate (p1 p2 t : Float32) : Float32 :=
  let c := 3.0 * p1
  let b := 3.0 * (p2 - p1) - c
  let a := 1.0 - c - b
  ((a * t + b) * t + c) * t

def slope (p1 p2 t : Float32) : Float32 :=
  let c := 3.0 * p1
  let b := 3.0 * (p2 - p1) - c
  let a := 1.0 - c - b
  (3.0 * a * t + 2.0 * b) * t + c

inductive Search where
  /-- The parameter is close enough. -/
  | found (t : Float32)
  /-- The slope is too flat, or the steps are used up. -/
  | gaveUp

/-- Newton's method from `t`: at most so many steps towards the parameter where the curve's x is
`progress`. -/
def newton (x1 x2 progress : Float32) : Nat → Float32 → Search
  | 0, _ => .gaveUp
  | steps + 1, t =>
      let error := coordinate x1 x2 t - progress
      if error.abs < 1e-5 then .found t
      else
        let slope := slope x1 x2 t
        if slope.abs < 1e-6 then .gaveUp
        else newton x1 x2 progress steps (t - error / slope)

def bisect (x1 x2 progress : Float32) : Nat → Float32 → Float32 → Float32 → Float32
  | 0, _, _, t => t
  | steps + 1, low, high, t =>
      let x := coordinate x1 x2 t
      if (x - progress).abs < 1e-5 then t
      else
        let low := if x < progress then t else low
        let high := if x < progress then high else t
        bisect x1 x2 progress steps low high ((low + high) * 0.5)

def cubic (x1 y1 x2 y2 progress : Float32) : Float32 :=
  if progress ≤ 0.0 ∨ 1.0 ≤ progress then progress
  else
    match newton x1 x2 progress 8 progress with
    | .found t => coordinate y1 y2 t
    | .gaveUp => coordinate y1 y2 (bisect x1 x2 progress 32 0.0 1.0 progress)

/-- Progress kept between zero and one; a value that is no number stays what it is. -/
def clamp (t : Float32) : Float32 :=
  if t < 0.0 then 0.0 else if t > 1.0 then 1.0 else t

def apply (easing : Easing) (t : Float32) : Float32 :=
  let t := clamp t
  match easing with
  | .linear => t
  | .easeIn => cubic 0.42 0.0 1.0 1.0 t
  | .easeOut => cubic 0.0 0.0 0.58 1.0 t
  | .easeInOut => cubic 0.42 0.0 0.58 1.0 t
  | .cubicBezier x1 y1 x2 y2 => cubic x1 y1 x2 y2 t

end Easing

end Toasts

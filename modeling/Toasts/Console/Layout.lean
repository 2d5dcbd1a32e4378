import Toasts.Store

/-!
Where each toast of a snapshot goes on the console's screen: stacked by position, in the order of
the snapshot, away from the screen edge.
-/

namespace Toasts.Console

def viewportWidth : Float32 := 1280.0
def viewportHeight : Float32 := 720.0

def toastWidth : Float32 := 356.0
def toastHeight : Float32 := 64.0

def gap : Float32 := 14.0

def margin : Float32 := 24.0

/-- The box of one slot of a stack; slots are counted from the edge of the screen. -/
def slotRect (position : Position) (slot : Nat) : Rect :=
  let x := match position with
    | .topLeft | .bottomLeft => margin
    | .topCenter | .bottomCenter => (viewportWidth - toastWidth) / 2.0
    | .topRight | .bottomRight => viewportWidth - margin - toastWidth
  let step := Float32.ofNat slot * (toastHeight + gap)
  let y := if position.isTop then margin + step
    else viewportHeight - margin - toastHeight - step
  { x, y, width := toastWidth, height := toastHeight }

def stack (position : Position) : Nat → List Toast → List (Toast × Rect)
  | _, [] => []
  | slot, toast :: rest => (toast, slotRect position slot) :: stack position (slot + 1) rest

def layout (snapshot : List Toast) : List (Toast × Rect) :=
  Position.all.flatMap fun position =>
    stack position 0 (snapshot.filter fun toast => decide (toast.position = position))

end Toasts.Console

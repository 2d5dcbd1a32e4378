import Toasts.Console.Picture
import Toasts.Engine.State

/-!
The console's renderer. It draws one frame for each snapshot it gets, begins the exit motion of an
edition once, begins an entrance for every toast that the snapshot shows entering, and reports what
it has drawn entering as painted.
-/

namespace Toasts.Console

structure Renderer where
  /-- Frames drawn so far. -/
  frames : Nat := 0
  /-- Editions whose exit has begun on screen. -/
  exited : List Nat := []

namespace Renderer

/-- The motion, if any, that a toast in its place begins with this frame. The engine is asked for
the motion of whatever it holds under the toast's identity by now. -/
def event? (renderer : Renderer) (engine : Engine) (place : Toast × Rect) : Option MotionEvent :=
  let toast := place.1
  let begin? (phase : Phase) : Option MotionEvent :=
    (engine.motion? toast.id phase (some place.2)).map fun motion =>
      { id := toast.id, edition := toast.edition, phase, animation := toast.animation, motion }
  if toast.exiting then
    if renderer.exited.contains toast.edition then none else begin? .exit
  else if toast.lifecycle = .entering then begin? .enter
  else none

def remember (renderer : Renderer) (toast : Toast) : Renderer :=
  if toast.exiting && !renderer.exited.contains toast.edition then
    { renderer with exited := toast.edition :: renderer.exited }
  else renderer

def events (renderer : Renderer) (engine : Engine) :
    List (Toast × Rect) → Renderer × List MotionEvent
  | [] => (renderer, [])
  | place :: rest =>
      let (remembered, events) := (renderer.remember place.1).events engine rest
      (remembered, (renderer.event? engine place).toList ++ events)

def draw (renderer : Renderer) (engine : Engine) (snapshot : List Toast) : Renderer × Picture :=
  let number := renderer.frames + 1
  let (remembered, events) := { renderer with frames := number }.events engine (layout snapshot)
  (remembered, { number, snapshot, events })

/-- The toasts of a snapshot to report as painted once it is drawn. -/
def reports (snapshot : List Toast) : List ToastId :=
  ((layout snapshot).filter fun place => decide (place.1.lifecycle = .entering)).map (·.1.id)

end Renderer

end Toasts.Console

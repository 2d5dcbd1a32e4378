import Toasts.Console.Layout
import Toasts.Motion.View
import Toasts.Toast.View

/-!
One frame of the console: the toasts in their places and the motions that begin with it, written as
text or as JSON.
-/

namespace Toasts.Console

inductive Format where
  | text
  | json
  deriving DecidableEq

structure MotionEvent where
  id : ToastId
  edition : Nat
  phase : Phase
  animation : Animation
  motion : Motion

structure Picture where
  number : Nat
  snapshot : List Toast
  events : List MotionEvent

def padRight (width : Nat) (text : String) : String :=
  text ++ String.ofList (List.replicate (width - text.length) ' ')

def toastLine (toast : Toast) : String :=
  let description := (toast.description.map (" · " ++ ·)).getD ""
  let action := (toast.action.map fun action => s!" [{action.label}]").getD ""
  "\n  " ++ padRight 13 toast.position.name ++ " " ++ padRight 7 toast.kind.name ++ " " ++
    padRight 8 toast.lifecycle.name ++ " " ++ toast.title.getD "-" ++ description ++ action ++
    s!" ({toast.lifespan.render})"

def eventLine (event : MotionEvent) : String :=
  let start := event.motion.keyframes.head?.getD .rest
  let fixed (places : Nat) (number : Float32) := Decimal.fixed places (.ofSingle number)
  let phase := match event.phase with
    | .enter => "Enter"
    | .exit => "Exit"
  s!"\n    {phase} {event.animation.name} {event.motion.timing.duration.wholeMillis}ms from " ++
    s!"translate({fixed 0 start.translateX}, {fixed 0 start.translateY}) " ++
    s!"scale({fixed 2 start.scaleX}, {fixed 2 start.scaleY}) " ++
    s!"opacity {fixed 1 start.opacity}"

/-- A frame as text, toasts in the order of the layout. -/
def Picture.text (picture : Picture) : String :=
  let placed := layout picture.snapshot
  s!"── frame {picture.number}: {placed.length} toast(s)" ++
    String.join (placed.map fun place => toastLine place.1) ++
    String.join (picture.events.map eventLine)

def MotionEvent.json (event : MotionEvent) (naming : Naming) : Json :=
  .object [("id", .string (naming.id event.id)), ("phase", .string event.phase.name),
    ("strategy", .string event.animation.name), ("motion", event.motion.json)]

/-- A frame as JSON, toasts in the order of the snapshot. -/
def Picture.json (picture : Picture) (naming : Naming) : Json :=
  .object [("frame", .ofNat picture.number),
    ("toasts", .array (picture.snapshot.map (·.view naming))),
    ("motions", .array (picture.events.map (·.json naming)))]

def Picture.render (picture : Picture) (format : Format) (naming : Naming) : String :=
  match format with
  | .text => picture.text
  | .json => (picture.json naming).render

end Toasts.Console

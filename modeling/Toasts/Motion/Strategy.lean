import Toasts.Geometry
import Toasts.Motion.Keyframe
import Toasts.Names

/-!
The enter and exit motions of the three animations. Every exit is the entrance played backwards
under a timing of its own. Growing and flying need the measured bounds of the trigger and of the
toast; where one is missing or not measurable they slide.
-/

namespace Toasts

inductive Phase where
  | enter
  | exit
  deriving DecidableEq

def Phase.name : Phase → String
  | .enter => "enter"
  | .exit => "exit"

/-- What a motion depends on: where the toast sits, the box of what triggered it, and its own. -/
structure Scene where
  position : Position
  anchor : Option Rect := none
  target : Option Rect := none

def Scene.measured (scene : Scene) : Option (Rect × Rect) :=
  match scene.anchor.filter Rect.isMeasurable, scene.target.filter Rect.isMeasurable with
  | some anchor, some target => some (anchor, target)
  | _, _ => none

structure Course where
  entrance : List Keyframe
  entering : Timing
  leaving : Timing

def Course.motion (course : Course) : Phase → Motion
  | .enter => ⟨course.entrance, course.entering⟩
  | .exit => (Motion.mk course.entrance course.entering).reversed course.leaving

def Course.fromFrame (start : Keyframe) (entering leaving : Timing) : Course :=
  ⟨[start, .rest], entering, leaving⟩

def slideOffset : Float32 := 16.0

def flyScale : Float32 := 0.3

/-- Fade in from the screen edge the toast belongs to. -/
def slideCourse (scene : Scene) : Course :=
  .fromFrame
    { offset := 0.0, opacity := 0.0, translateX := 0.0
      translateY := if scene.position.isTop then -slideOffset else slideOffset
      scaleX := 0.95, scaleY := 0.95 }
    ⟨Span.ofMillis 350, .cubicBezier 0.21 1.02 0.73 1.0, .forwards⟩
    ⟨Span.ofMillis 200, .easeIn, .forwards⟩

/-- Grow out of the trigger: start with its size, place and rounding. -/
def morphCourse (anchor target : Rect) : Course :=
  let shift := target.centerOffsetTo anchor
  .fromFrame
    { offset := 0.0, opacity := 0.0, translateX := shift.x, translateY := shift.y
      scaleX := anchor.width / target.width, scaleY := anchor.height / target.height
      radius := .pill }
    ⟨Span.ofMillis 500, .cubicBezier 0.34 1.56 0.64 1.0, .both⟩
    ⟨Span.ofMillis 300, .cubicBezier 0.36 0.0 0.66 (-0.56), .forwards⟩

/-- Fly from the middle of the trigger to the resting place. -/
def flyCourse (anchor target : Rect) : Course :=
  let path := target.centerOffsetTo anchor
  .fromFrame
    { offset := 0.0, opacity := 0.0, translateX := path.x, translateY := path.y
      scaleX := flyScale, scaleY := flyScale }
    ⟨Span.ofMillis 450, .cubicBezier 0.22 1.0 0.36 1.0, .both⟩
    ⟨Span.ofMillis 350, .easeIn, .forwards⟩

def Animation.course (animation : Animation) (scene : Scene) : Course :=
  match animation, scene.measured with
  | .slide, _ => slideCourse scene
  | _, none => slideCourse scene
  | .morph, some (anchor, target) => morphCourse anchor target
  | .fly, some (anchor, target) => flyCourse anchor target

def Animation.motion (animation : Animation) (phase : Phase) (scene : Scene) : Motion :=
  (animation.course scene).motion phase

end Toasts

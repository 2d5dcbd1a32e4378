import Toasts.Json.Value
import Toasts.Motion.Keyframe

/-!
Motion as JSON, in the form animation engines take: offsets, easing and fill map one to one.
-/

namespace Toasts

def Easing.json : Easing → Json
  | .linear => .string "linear"
  | .easeIn => .string "ease-in"
  | .easeOut => .string "ease-out"
  | .easeInOut => .string "ease-in-out"
  | .cubicBezier x1 y1 x2 y2 =>
      .object [("cubic-bezier", .array [.ofSingle x1, .ofSingle y1, .ofSingle x2, .ofSingle y2])]

def Keyframe.json (frame : Keyframe) : Json :=
  .object [("offset", .ofSingle frame.offset), ("opacity", .ofSingle frame.opacity),
    ("translate_x", .ofSingle frame.translateX), ("translate_y", .ofSingle frame.translateY),
    ("scale_x", .ofSingle frame.scaleX), ("scale_y", .ofSingle frame.scaleY),
    ("radius", .string frame.radius.name)]

/-- Whether the whole milliseconds of a timing fit 64 bits, so that it can be written. -/
def Timing.isWritable (timing : Timing) : Bool := timing.duration.wholeMillis < unsignedBound

/-- A timing, its duration rounded to the nearest millisecond. The last count of 64 bits is rounded
up to zero. -/
def Timing.json (timing : Timing) : Json :=
  .object [("duration_ms", .ofNat (timing.duration.nearestMillis % unsignedBound)),
    ("easing", timing.easing.json), ("fill", .string timing.fill.name)]

def Motion.json (motion : Motion) : Json :=
  .object [("keyframes", .array (motion.keyframes.map Keyframe.json)),
    ("timing", motion.timing.json)]

end Toasts

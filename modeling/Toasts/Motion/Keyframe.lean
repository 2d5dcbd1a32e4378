import Toasts.Fused
import Toasts.Motion.Easing
import Toasts.Span

/-!
Motion as data: keyframes and the timing they are played with. A renderer hands them to an animation
engine of its own or steps through them with `Motion.sample`.
-/

namespace Toasts

inductive Radius where
  /-- Fully rounded, like the button a toast grows out of. -/
  | pill
  /-- Whatever the toast is styled with. -/
  | natural
  deriving DecidableEq

def Radius.name : Radius → String
  | .pill => "pill"
  | .natural => "natural"

/-- One state of an animated toast. Transforms apply around its middle. -/
structure Keyframe where
  /-- Where in the motion this state stands, from zero to one. -/
  offset : Float32 := 1.0
  opacity : Float32 := 1.0
  translateX : Float32 := 0.0
  translateY : Float32 := 0.0
  scaleX : Float32 := 1.0
  scaleY : Float32 := 1.0
  radius : Radius := .natural
  deriving DecidableEq

namespace Keyframe

def rest : Keyframe := {}

def placed (frame : Keyframe) (offset : Float32) : Keyframe := { frame with offset }

/-- The state a part `t` of the way from one state to the next; the corner changes half way. -/
def blend (start next : Keyframe) (t : Float32) : Keyframe :=
  let mix (a b : Float32) := fusedMulAdd (b - a) t a
  { offset := mix start.offset next.offset
    opacity := mix start.opacity next.opacity
    translateX := mix start.translateX next.translateX
    translateY := mix start.translateY next.translateY
    scaleX := mix start.scaleX next.scaleX
    scaleY := mix start.scaleY next.scaleY
    radius := if t < 0.5 then start.radius else next.radius }

end Keyframe

inductive Fill where
  | none
  | forwards
  | backwards
  | both
  deriving DecidableEq

def Fill.name : Fill → String
  | .none => "none"
  | .forwards => "forwards"
  | .backwards => "backwards"
  | .both => "both"

structure Timing where
  duration : Span
  easing : Easing
  fill : Fill
  deriving DecidableEq

structure Motion where
  keyframes : List Keyframe
  timing : Timing
  deriving DecidableEq

namespace Motion

/-- The same keyframes played backwards under another timing. -/
def reversed (motion : Motion) (timing : Timing) : Motion where
  keyframes := motion.keyframes.reverse.map fun frame => frame.placed (1.0 - frame.offset)
  timing := timing

def between (eased : Float32) : List Keyframe → Option Keyframe
  | start :: next :: rest =>
      if eased ≤ next.offset then
        let span := next.offset - start.offset
        let within := if span > 0.0 then (eased - start.offset) / span else 1.0
        some (start.blend next within)
      else between eased (next :: rest)
  | _ => none

/-- The state at linear progress `t`. Before the first keyframe and after the last one the state
stands still. -/
def sample (motion : Motion) (t : Float32) : Keyframe :=
  let eased := motion.timing.easing.apply t
  let frame := match motion.keyframes with
    | [] => Keyframe.rest
    | first :: rest =>
        if eased ≤ first.offset then first
        else (between eased (first :: rest)).getD ((first :: rest).getLast (by simp))
  frame.placed eased

end Motion

end Toasts

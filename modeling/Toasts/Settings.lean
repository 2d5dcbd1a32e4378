import Toasts.Options

/-!
What the engine is set up with: lifespans, the exit window, the animation and the autopilot that
apply where a caller leaves them open.
-/

namespace Toasts

/-- The autopilot that applies where a caller asks for none in particular. -/
structure AutopilotDefaults where
  enabled : Bool := true
  expandAfter : Span := Span.ofMillis 150
  collapseAfter : Span := Span.ofMillis 4000
  deriving DecidableEq

/-- The settings of an engine; they stay fixed while it runs. -/
structure Settings where
  lifespan : Lifespan := .finite (Span.ofMillis 6000)
  /-- Time between a dismissal and the removal of the record. -/
  exitWindow : Span := Span.ofMillis 400
  animation : Animation := .slide
  autopilot : AutopilotDefaults := {}
  deriving DecidableEq

/-- What is layered under the options of every new toast. -/
structure Defaults where
  position : Position := .topRight
  options : Options := {}

end Toasts

import Toasts.Json.Value
import Toasts.Toast

/-!
The projection of a toast that is handed to renderers as JSON: everything but the callbacks.
-/

namespace Toasts

/-- How numbers that the engine has given out are written: identities it made up, editions, and
moments of creation. -/
structure Naming where
  serial : Nat → String
  edition : Nat → String
  birth : Nat → String

namespace Naming

def id (naming : Naming) : ToastId → String
  | .named text => text
  | .generated serial => naming.serial serial

end Naming

def Span.json (span : Span) : Json :=
  .object [("secs", .ofNat span.seconds), ("nanos", .ofNat span.subsecond)]

/-- A lifespan in whole milliseconds, as far as 64 bits reach, or "none". -/
def Lifespan.json (lifespan : Lifespan) : Json :=
  match lifespan.countdown with
  | some span => .ofNat (min span.wholeMillis (unsignedBound - 1))
  | none => .string "none"

def Icon.json : Icon → Json
  | .hidden => .object [("type", .string "hidden")]
  | .named name => .object [("type", .string "named"), ("name", .string name)]

def Rect.json (rect : Rect) : Json :=
  .object [("x", .ofSingle rect.x), ("y", .ofSingle rect.y), ("width", .ofSingle rect.width),
    ("height", .ofSingle rect.height)]

def Autopilot.json (autopilot : Autopilot) : Json :=
  .object [("expand_after", autopilot.expandAfter.json),
    ("collapse_after", autopilot.collapseAfter.json)]

def Json.ofOption {α : Type} (json : α → Json) : Option α → Json
  | some value => json value
  | none => .null

def Toast.view (toast : Toast) (naming : Naming) : Json :=
  .object [
    ("id", .string (naming.id toast.id)),
    ("instance_id", .string (naming.edition toast.edition)),
    ("kind", .string toast.kind.name),
    ("title", .ofText? toast.title),
    ("description", .ofText? toast.description),
    ("position", .string toast.position.name),
    ("duration", toast.lifespan.json),
    ("icon", .ofOption Icon.json toast.icon),
    ("styles", .object (toast.styles.entries.map fun (slot, value) => (slot.name, .string value))),
    ("action", .ofText? (toast.action.map (·.label))),
    ("animation", .string toast.animation.name),
    ("anchor", .ofOption Rect.json toast.anchor),
    ("autopilot", .ofOption Autopilot.json toast.autopilot),
    ("lifecycle", .string toast.lifecycle.name),
    ("created_at", .string (naming.birth toast.birth)),
    ("exiting", .bool toast.exiting)]

end Toasts

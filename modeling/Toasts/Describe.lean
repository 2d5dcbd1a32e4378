import Toasts.Engine.State
import Toasts.Toast.View

/-!
One-line descriptions of the engine's parts for diagnostics: names of types and fields, and values
in their shortest form.
-/

namespace Toasts.Describe

/-- A value with named fields; an open one has more than is shown. -/
def fields (name : String) (shown : List (String × String)) (isOpen : Bool := false) : String :=
  let written := shown.map fun field => s!"{field.1}: {field.2}"
  let all := if isOpen then written ++ [".."] else written
  name ++ " \x7b " ++ ", ".intercalate all ++ " \x7d"

def option {α : Type} (describe : α → String) : Option α → String
  | some value => s!"Some({describe value})"
  | none => "None"

def bool (value : Bool) : String := if value then "true" else "false"

def counted (whole rest places : Nat) (unit : String) : String :=
  let digits := Nat.toDigits 10 rest
  let padded := List.replicate (places - digits.length) '0' ++ digits
  let shown := (padded.reverse.dropWhile (· = '0')).reverse
  let fraction := if rest = 0 then "" else "." ++ String.ofList shown
  s!"{whole}{fraction}{unit}"

def span (span : Span) : String :=
  let nanos := span.nanos
  if span.seconds ≠ 0 then counted span.seconds span.subsecond 9 "s"
  else if 1000000 ≤ nanos then counted (nanos / 1000000) (nanos % 1000000) 6 "ms"
  else if 1000 ≤ nanos then counted (nanos / 1000) (nanos % 1000) 3 "µs"
  else counted nanos 0 0 "ns"

def lifespan : Lifespan → String
  | .finite length => s!"Finite({span length})"
  | .persistent => "Persistent"

def capitalised (name : String) : String :=
  String.join ((name.splitOn "-").map fun word =>
    match word.toList with
    | [] => ""
    | first :: rest => String.ofList (first.toUpper :: rest))

def single (number : Float32) : String := Decimal.diagnostic.render (.ofSingle number)

def rect (rect : Rect) : String :=
  fields "Rect" [("x", single rect.x), ("y", single rect.y), ("width", single rect.width),
    ("height", single rect.height)]

def icon : Icon → String
  | .hidden => "Hidden"
  | .named name => s!"Named({Text.quoted name})"

def styles (styles : Styles) : String :=
  let written := styles.entries.map fun (slot, value) =>
    s!"{capitalised slot.name}: {Text.quoted value}"
  "\x7b" ++ ", ".intercalate written ++ "\x7d"

def anchor : Anchor → String
  | .fixed bounds => s!"Rect({rect bounds})"
  | .element _ => "Element"

def autopilotRequest : AutopilotRequest → String
  | .switch on => s!"Enabled({bool on})"
  | .custom expand collapse =>
      fields "Custom" [("expand", option span expand), ("collapse", option span collapse)]

def options (naming : Naming) (options : Options) : String :=
  fields "ToastOptions" [
    ("id", option (fun id => s!"ToastId({Text.quoted (naming.id id)})") options.id),
    ("kind", option (capitalised ·.name) options.kind),
    ("title", option Text.quoted options.title),
    ("description", option Text.quoted options.description),
    ("position", option (capitalised ·.name) options.position),
    ("duration", option lifespan options.lifespan),
    ("icon", option icon options.icon),
    ("styles", styles options.styles),
    ("action", option (fun action =>
      fields "ActionButton" [("label", Text.quoted action.label)] true) options.action),
    ("animation", option (capitalised ·.name) options.animation),
    ("anchor", option anchor options.anchor),
    ("autopilot", option autopilotRequest options.autopilot),
    ("on_dismiss", option (fun _ => "ToastCallback") options.onDismiss),
    ("on_auto_close", option (fun _ => "ToastCallback") options.onAutoClose)]

def resolver (naming : Naming) : Resolver → String
  | .fixed fixed => s!"Static({options naming fixed})"
  | .computed _ => "With"

def promiseOptions (naming : Naming) (promise : PromiseOptions) : String :=
  fields "PromiseOptions" [("loading", options naming promise.loading),
    ("success", resolver naming promise.success), ("error", resolver naming promise.error),
    ("action", bool promise.action.isSome)]

def countdowns {Key Action : Type} (countdowns : Countdowns Key Action) : String :=
  fields "TimerCoordinator" [("timers", toString countdowns.entries.length),
    ("paused", bool countdowns.paused)] true

def settings (settings : Settings) : String :=
  let autopilot := settings.autopilot
  fields "EngineSettings" [("default_duration", lifespan settings.lifespan),
    ("exit_duration", span settings.exitWindow),
    ("default_animation", capitalised settings.animation.name),
    ("autopilot", fields "AutopilotDefaults" [("enabled", bool autopilot.enabled),
      ("expand_after", span autopilot.expandAfter),
      ("collapse_after", span autopilot.collapseAfter)])]

def engine (engine : Engine) : String :=
  fields "ToastManager" [
    ("store", fields "ToastStore" [("toasts", toString engine.store.toasts.length),
      ("listeners", toString engine.store.listeners.length)]),
    ("timers", countdowns engine.countdowns),
    ("settings", settings engine.settings)] true

def subscription (number : Nat) : String := fields "Subscription" [("id", toString number)]

end Toasts.Describe

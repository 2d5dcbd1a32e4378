import Toasts.Script
import Toasts.Settings

/-!
The scripted scenarios of the console: a timed toast with a pause in the middle, promises, anchored
motions, and toasts that stay. Each waits at its end until the last exit has been played; where that
wait is too long for a span there is no script.
-/

namespace Toasts

open Script

inductive Scenario where
  | timed
  | promise
  | morph
  | sticky
  | all
  deriving DecidableEq

namespace Scenario

def name : Scenario → String
  | .timed => "timed"
  | .promise => "promise"
  | .morph => "morph"
  | .sticky => "sticky"
  | .all => "all"

def ofName? (name : String) : Option Scenario :=
  [timed, promise, morph, sticky, all].find? (·.name == name)

def trigger : Rect := { x := 560.0, y := 340.0, width := 160.0, height := 40.0 }

def inert : Hook := ⟨0⟩

def present (manner : Manner) (options : Options) : Instruction :=
  .act (.present manner { options } none)

def presentKind (kind : Kind) (options : Options) : Instruction := present (.ofKind kind) options

def pass (millis : Nat) : Instruction := .sleep (Span.ofMillis millis)

/-- The wait until exits have been played, unless it is too long. -/
def settling? (settings : Settings) : Option Span := settings.exitWindow.plus? (Span.ofMillis 100)

/-- A toast of five seconds, hovered from the first to the fourth: it leaves at the eighth. -/
def timedScript (settling : Span) : List Instruction := [
  .act (.present (.ofKind .info)
    { options := {
        title := some "Sync complete"
        description := some "hover pauses the countdown"
        lifespan := some (.finite (Span.ofSeconds 5)) }
      id := some (.literal "timed") } none),
  pass 1000, .act .pause,
  pass 3000, .act .resume,
  pass 4000, .sleep settling]

def described (title description : String) : Draft :=
  { options := { title := some title, description := some description } }

def titled (title : String) : Draft := { options := { title := some title } }

def promiseScript (lifespan : Lifespan) (settling : Span) : List Instruction :=
  let saved := described "Saved" "\x7b\x7d files written"
  let undo : Draft :=
    { saved with options := { saved.options with action := some ⟨"Undo", inert⟩ } }
  let saving : Draft := { titled "Saving" with id := some (.literal "save") }
  [.act (.promise "scenario save" saving (.computed saved)
      (.computed (described "Save failed" "\x7b\x7d")) (some undo)
      ⟨some (Span.ofMillis 200), .fulfilled "3"⟩ false false),
    .await "scenario save",
    .act (.promise "scenario upload" (titled "Uploading") (.fixed (titled "Uploaded"))
      (.computed (described "Upload failed" "\x7b\x7d")) none
      ⟨some (Span.ofMillis 300), .rejected "connection reset"⟩ false false),
    .await "scenario upload",
    .sleep (lifespan.countdown.getD .zero), .sleep settling]

def morphScript (settling : Span) : List Instruction :=
  let brief := some (Lifespan.finite (Span.ofSeconds 2))
  [presentKind .success {
      title := some "Copied", animation := some .morph, anchor := some (.fixed trigger)
      lifespan := brief },
    pass 400,
    presentKind .info {
      title := some "Sent to inbox", animation := some .fly, anchor := some (.fixed trigger)
      position := some .bottomCenter, lifespan := brief },
    pass 400,
    presentKind .warning {
      title := some "No anchor", animation := some .morph, lifespan := brief },
    pass 2000, .sleep settling]

def stickyScript (settling : Span) : List Instruction := [
  .act (.present (.ofKind .warning)
    { options := {
        title := some "Offline"
        description := some "changes are kept locally"
        lifespan := some .persistent } } (some "scenario pinned")),
  present .atWork { title := some "Reconnecting", position := some .bottomLeft },
  presentKind .error {
    title := some "Retry failed", position := some .bottomLeft
    lifespan := some (.finite .zero) },
  pass 1000, .act (.clear (some .bottomLeft)),
  pass 1000, .act (.dismiss (.stored "scenario pinned")), .sleep settling]

def script? (scenario : Scenario) (settings : Settings) : Option (List Instruction) := do
  let settling ← settling? settings
  let promised := promiseScript settings.lifespan settling
  return match scenario with
    | .timed => timedScript settling
    | .promise => promised
    | .morph => morphScript settling
    | .sticky => stickyScript settling
    | .all => timedScript settling ++ promised ++ morphScript settling ++ stickyScript settling

end Scenario

end Toasts

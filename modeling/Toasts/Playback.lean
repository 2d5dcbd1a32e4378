import Toasts.CommandLine
import Toasts.Configuration.Load
import Toasts.LogFilter
import Toasts.Session

/-!
The console program: a scenario played on an engine with the renderer before it. The scenario is the
main script; when it is over the renderer gets no more snapshots, draws those it has, and what is
left on the screen is cleared.
-/

namespace Toasts

open Script

namespace CommandLine

def standardPath : String := "notix.toml"

def configuration (line : CommandLine) (surroundings : Surroundings) :
    Except Failure Configuration := do
  let path := line.config.getD standardPath
  let loaded ← (Configuration.load surroundings path).mapError .configuration
  let settings := loaded.settings
  return { loaded with
    position := line.position.getD loaded.position
    settings := { settings with lifespan := line.lifespan.getD settings.lifespan } }

def session (line : CommandLine) (surroundings : Surroundings) (naming : Naming) :
    Except Failure Session := do
  let _ ← LogFilter.start line.logFilter (surroundings.textOf? "RUST_LOG") line.jsonLogs
  let configuration ← line.configuration surroundings
  let engine ← Engine.ofConfiguration configuration (some 0)
  let scenario := line.scenario.getD .all
  match Console.Stage.withRenderer? engine configuration.queueCapacity,
      scenario.script? configuration.settings with
  | some stage, some script => return {
      stage
      naming
      scripts := fun _ => []
      instructions := script ++ [.detach, .rest, .act (.clear none), .rest] }
  | _, _ => throw .overrun

def frame? (line : CommandLine) (naming : Naming) : Entry → Option String
  | .frame picture => some (picture.render (line.format.getD .text) naming)
  | _ => none

end CommandLine

/-- The exit code of a failure: two if the author of a configuration can mend it, and a code of its
own where the program stops for good. -/
def Failure.exitCode (failure : Failure) : Nat :=
  if failure.isOverrun then 101 else if failure.isUserError then 2 else 1

def Failure.report (failure : Failure) : String :=
  let text := s!"Error: {failure.message}"
  match failure with
  | .configuration .shape | .configuration .syntaxError => text
  | _ => text ++ "\n"

def Session.frames (session : Session) (line : CommandLine) : List String :=
  session.log.reverse.filterMap (line.frame? session.naming)

end Toasts

import Toasts.Playback

/-!
The console program. Everything it decides is decided by the library; here its arguments, its
surroundings and the time come in, and its frames go out. Moments of the played session are waited
for by the clock.
-/

namespace Toasts

def variableNames : List String := [
  "NOTIX__TOASTS__POSITION", "NOTIX__TOASTS__DURATION", "NOTIX__TOASTS__EXIT_DURATION",
  "NOTIX__TOASTS__ANIMATION", "NOTIX__AUTOPILOT__ENABLED", "NOTIX__AUTOPILOT__EXPAND_AFTER",
  "NOTIX__AUTOPILOT__COLLAPSE_AFTER", "NOTIX__RENDERER__QUEUE_BOUND", "NOTIX_POSITION",
  "NOTIX_DURATION", "NOTIX_ANIMATION", "NOTIX_AUTOPILOT", "RUST_LOG"]

def fileText? (path : String) : IO (Option (String × String)) := do
  try
    return some (path, ← IO.FS.readFile path)
  catch _ => return none

def surroundingsOf (line : CommandLine) : IO Surroundings := do
  let path := line.config.getD CommandLine.standardPath
  let files ← (path :: (Configuration.Folder.extended? path).toList).filterMapM fileText?
  let environment ← variableNames.filterMapM fun name => do
    return (← IO.getEnv name).map (name, ·)
  return { folder := .ofFiles files, environment }

def plainNaming : Naming where
  serial number := s!"toast-{number}"
  edition number := s!"edition-{number}"
  birth number := s!"birth-{number}"

/-- Play a session from the clock's `start` on. -/
partial def playByClock (line : CommandLine) (start : Nat) (session : Session) : IO Unit := do
  for frame in session.frames line do
    IO.println frame
  if !session.isOver then
    let elapsed := (← IO.monoMsNow) - start
    if elapsed < session.engine.now then
      IO.sleep (session.engine.now - elapsed).toUInt32
    playByClock line start { session with log := [] }.step

def CommandLine.Complaint.message : CommandLine.Complaint → String
  | .invalidValue => "error: a value is missing or is not one to choose from"
  | .valueValidation => "error: a value cannot be read"
  | .argumentConflict => "error: an option is given more than once"
  | .tooManyValues => "error: an option takes no value"
  | .unknownArgument => "error: an argument is not known"
  | .displayHelp =>
      "Plays scripted toast scenarios on the console\n\n" ++
      "Usage: notix [--config PATH] [--scenario timed|promise|morph|sticky|all]\n" ++
      "  [--position POSITION] [--duration DURATION] [--json-logs] [--log-filter FILTER]\n" ++
      "  [--snapshot-format text|json]"
  | .displayVersion => "notix 0.1.0"
  | .overrun => "error: a duration overruns"

def playLine (line : CommandLine) : IO UInt32 := do
  match line.session (← surroundingsOf line) plainNaming with
  | .error failure =>
      IO.eprint failure.report
      return UInt32.ofNat failure.exitCode
  | .ok session =>
      playByClock line (← IO.monoMsNow) session
      return 0

end Toasts

open Toasts in
def main (arguments : List String) : IO UInt32 := do
  match CommandLine.read arguments with
  | .ok line => playLine line
  | .error complaint =>
      if complaint = .displayHelp ∨ complaint = .displayVersion then
        IO.println complaint.message
        return 0
      else
        IO.eprintln complaint.message
        return if complaint = .overrun then 101 else 2

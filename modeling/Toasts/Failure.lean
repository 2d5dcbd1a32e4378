import Toasts.Engine.State
import Toasts.Timekeeper

/-!
What can go wrong on the way to a running engine. Only a configuration can be mended by its author;
everything else is a matter of the surroundings.
-/

namespace Toasts

inductive ConfigurationFault where
  /-- The file has to be there and is not. -/
  | unreadable (path : String)
  | shape
  /-- A value is not acceptable. -/
  | invalid (field message : String)
  /-- The file is not written correctly. -/
  | syntaxError
  /-- A written span or an index reaches beyond its bounds; reading the configuration stops. -/
  | overrun
  deriving DecidableEq

inductive Failure where
  | configuration (fault : ConfigurationFault)
  /-- Nothing lets time pass. -/
  | noRuntime
  /-- Diagnostics cannot be set up. -/
  | telemetry (reason : String)
  /-- Something reaches beyond its bounds; the program stops. -/
  | overrun
  deriving DecidableEq

namespace Failure

/-- What is said about a failure. Where the wording is that of a reader of some format, only its
beginning is given. -/
def message : Failure → String
  | .configuration (.unreadable path) => s!"failed to read configuration file {path}"
  | .configuration .shape => "failed to parse configuration: "
  | .configuration (.invalid field message) => s!"invalid configuration for {field}: {message}"
  | .configuration .syntaxError => "configuration error: "
  | .configuration .overrun | .overrun => "overflow"
  | .noRuntime => "no tokio runtime available to drive toast timers"
  | .telemetry reason => s!"telemetry initialization failed: {reason}"

def isOverrun : Failure → Bool
  | .configuration .overrun | .overrun => true
  | _ => false

/-- Whether the author of a configuration can mend the failure. -/
def isUserError : Failure → Bool
  | .configuration _ => true
  | _ => false

end Failure

def Engine.start (settings : Settings) (clock : Option Nat) : Except Failure Engine :=
  match clock with
  | some now => .ok { settings, agenda := { now } }
  | none => .error .noRuntime

def Timekeeper.start {Key Action : Type} (clock : Option Nat) :
    Except Failure (Timekeeper Key Action) :=
  match clock with
  | some now => .ok { agenda := { now } }
  | none => .error .noRuntime

end Toasts

import Toasts.Text.Blank

/-!
How much is reported: nothing, errors, and so on up to everything.
-/

namespace Toasts

inductive Verbosity where
  | off
  | error
  | warn
  | info
  | debug
  | trace
  deriving DecidableEq

namespace Verbosity

def all : List Verbosity := [.off, .error, .warn, .info, .debug, .trace]

def name : Verbosity → String
  | .off => "off"
  | .error => "error"
  | .warn => "warn"
  | .info => "info"
  | .debug => "debug"
  | .trace => "trace"

/-- A level by its place, from zero on; a plus sign and zeros may stand in front. -/
def atPlace? (text : String) : Option Verbosity :=
  let digits := match text.toList with
    | '+' :: digits => digits
    | digits => digits
  if digits ≠ [] ∧ digits.all Text.isDigit then all[Text.digitsValue digits]? else none

def read? (text : String) : Option Verbosity :=
  (all.find? fun level => level.name == Text.lower text) <|> atPlace? text

end Verbosity

end Toasts

import Toasts.Failure
import Toasts.LogFilter.Directive

/-!
Filters for diagnostics: how much is reported, in general or for one target. The first candidate
that is a filter wins, and there is one that always is.
-/

namespace Toasts

/-- A filter: directives, the one that is looked at first in front. -/
structure LogFilter where
  directives : List Directive
  deriving DecidableEq

namespace LogFilter

/-- Read a filter: directives with commas between them. Commas with nothing between them do not
matter. -/
def read (text : String) : Except Directive.Fault LogFilter := do
  let pieces := (text.splitOn ",").filter (· ≠ "")
  let directives ← pieces.mapM fun piece => Directive.read piece.toList
  return ⟨directives.foldl (fun placed directive => directive.insert placed) []⟩

def render (filter : LogFilter) : String :=
  let (whole, within) := filter.directives.partition (·.span.isNone)
  ",".intercalate ((whole ++ within).map Directive.render)

def fallback : LogFilter := ⟨[{ level := .info }]⟩

/-- The first of the candidates that is a filter, unless reading one before it stops everything. -/
def choose : List String → Except Failure LogFilter
  | [] => .ok fallback
  | candidate :: rest => match read candidate with
    | .ok filter => .ok filter
    | .error .overrun => .error .overrun
    | .error .malformed => choose rest

/-- Set diagnostics up, with the filter asked for or else that of the environment. Reports in JSON
are not part of this build. -/
def start (asked environment : Option String) (json : Bool) : Except Failure LogFilter := do
  let filter ← choose (asked.toList ++ environment.toList)
  if json then .error (.telemetry "built without the \x60json-logs\x60 feature") else .ok filter

end LogFilter

end Toasts

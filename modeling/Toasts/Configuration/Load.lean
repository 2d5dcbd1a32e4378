import Toasts.Configuration.Draft
import Toasts.Configuration.Folder
import Toasts.Configuration.Variables
import Toasts.Toml.Statement

/-!
Loading a configuration. Four layers give its fields: standard values, a document, the variables
that spell a path, and four short variables, each over the one before. Only what is left at the top
is checked.
-/

namespace Toasts

open Toasts.Configuration

structure Configuration where
  position : Position := .topRight
  settings : Settings := {}
  /-- How many snapshots may wait for the renderer. -/
  queueCapacity : Nat := 32
  deriving DecidableEq

structure Surroundings where
  folder : Folder := {}
  /-- The environment variables with their texts. -/
  environment : List (String × String) := []

namespace Surroundings

def textOf? (surroundings : Surroundings) (name : String) : Option String :=
  (surroundings.environment.find? (·.1 == name)).map (·.2)

def override? (surroundings : Surroundings) (name : String) : Option String :=
  (surroundings.textOf? name).bind fun text =>
    let trimmed := Text.trim text
    if trimmed = "" then none else some trimmed

/-- The tree of a document and of the variables over it. Where a list would have to reach beyond its
ends reading stops, but only once the whole document has been read. -/
def tree (surroundings : Surroundings) (path : String) : Except ConfigurationFault Tree := do
  let members ← match surroundings.folder.document? path with
    | none => .ok []
    | some text => match Toml.read? text with
      | none => .error .syntaxError
      | some members => .ok (Tree.ofMembers members)
  let stored := do
    let start ← members.foldlM (fun tree (name, value) => tree.store? name value) (Tree.table [])
    start.withVariables? surroundings.environment
  match stored with
  | none => .error .overrun
  | some tree => .ok tree

end Surroundings

namespace Configuration

namespace Draft

def overriddenLifespan (draft : Draft) (surroundings : Surroundings) :
    Except ConfigurationFault Lifespan :=
  match surroundings.override? "NOTIX_DURATION" with
  | none => .ok draft.lifespan
  | some text => match Lifespan.parse text with
    | .ok lifespan => .ok lifespan
    | .error ⟨_, .overrun⟩ => .error .overrun
    | .error fault => .error (.invalid "NOTIX_DURATION" fault.message)

def overriddenAutopilot (draft : Draft) (surroundings : Surroundings) :
    Except ConfigurationFault Bool :=
  match surroundings.override? "NOTIX_AUTOPILOT" with
  | none => .ok draft.autopilot.enabled
  | some "true" => .ok true
  | some "false" => .ok false
  | some _ =>
      .error (.invalid "NOTIX_AUTOPILOT" "provided string was not \x60true\x60 or \x60false\x60")

def overridden (draft : Draft) (surroundings : Surroundings) :
    Except ConfigurationFault Draft := do
  let lifespan ← draft.overriddenLifespan surroundings
  let enabled ← draft.overriddenAutopilot surroundings
  return { draft with
    position := (surroundings.override? "NOTIX_POSITION").getD draft.position
    lifespan
    animation := (surroundings.override? "NOTIX_ANIMATION").getD draft.animation
    autopilot := { draft.autopilot with enabled } }

/-- The configuration of fields that pass every check: names that name something, an exit window
that lasts, details that collapse no sooner than they expand, and room in the queue. -/
def checked (draft : Draft) : Except ConfigurationFault Configuration := do
  let position ← (Position.parse draft.position).mapError fun unknown =>
    .invalid "toasts.position" unknown.message
  let animation ← (Animation.parse draft.animation).mapError fun unknown =>
    .invalid "toasts.animation" unknown.message
  let { expandAfter := expand, collapseAfter := collapse, .. } := draft.autopilot
  if draft.exitWindow.isZero then
    .error (.invalid "toasts.exit_duration" "exit animation window must be greater than zero")
  else if collapse.nanos < expand.nanos then
    .error (.invalid "autopilot.collapse_after"
      s!"collapse ({collapse.render}) must not come before expand ({expand.render})")
  else if draft.queueBound = 0 then
    .error (.invalid "renderer.queue_bound" "queue bound must be greater than zero")
  else
    .ok {
      position
      settings := {
        lifespan := draft.lifespan, exitWindow := draft.exitWindow, animation
        autopilot := draft.autopilot }
      queueCapacity := draft.queueBound }

end Draft

/-- Load a configuration; the document need not be there. -/
def load (surroundings : Surroundings) (path : String) :
    Except ConfigurationFault Configuration := do
  let draft ← Draft.ofTree (← surroundings.tree path)
  (← draft.overridden surroundings).checked

/-- Load a configuration from a document that has to be there under exactly this path. -/
def loadRequired (surroundings : Surroundings) (path : String) :
    Except ConfigurationFault Configuration :=
  if surroundings.folder.contains path then load surroundings path
  else .error (.unreadable path)

end Configuration

def Engine.ofConfiguration (configuration : Configuration) (clock : Option Nat) :
    Except Failure Engine := do
  let engine ← Engine.start configuration.settings clock
  return { engine with defaults := { engine.defaults with position := configuration.position } }

end Toasts

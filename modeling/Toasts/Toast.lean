import Toasts.Motion.Strategy
import Toasts.Settings

/-!
The record of one displayed toast, and the two ways it comes about: built from options, or revised
by options. Neither touches countdowns or the store.
-/

namespace Toasts

/-- When the details of a toast expand and collapse again, measured from its appearance. -/
structure Autopilot where
  expandAfter : Span
  collapseAfter : Span
  deriving DecidableEq

/-- The autopilot of a toast with this lifespan: the delays asked for, or those of the settings,
neither beyond the lifespan. A toast that does not dismiss itself has none. -/
def Autopilot.plan (request : Option AutopilotRequest) (lifespan : Lifespan) (settings : Settings) :
    Option Autopilot :=
  let within (limit expand collapse : Span) : Option Autopilot :=
    some ⟨expand.shorter limit, collapse.shorter limit⟩
  let standard := settings.autopilot
  match lifespan.countdown, request with
  | none, _ => none
  | some _, some (.switch false) => none
  | some limit, none =>
      if standard.enabled then within limit standard.expandAfter standard.collapseAfter else none
  | some limit, some (.switch true) => within limit standard.expandAfter standard.collapseAfter
  | some limit, some (.custom expand collapse) =>
      within limit (expand.getD standard.expandAfter) (collapse.getD standard.collapseAfter)

structure Toast where
  id : ToastId
  /-- A number that is new at every creation and every revision; whoever draws the toast can tell
  by it that the content has changed. -/
  edition : Nat
  kind : Kind
  title : Option String
  description : Option String
  position : Position
  lifespan : Lifespan
  icon : Option Icon
  styles : Styles
  action : Option ActionButton
  animation : Animation
  anchor : Option Rect
  autopilot : Option Autopilot
  lifecycle : Lifecycle
  /-- The number of its creation, which every revision keeps. -/
  birth : Nat
  exiting : Bool
  onDismiss : Option Hook
  onAutoClose : Option Hook
  /-- The latest wish about the autopilot, kept while the lifespan leaves no room for it. -/
  autopilotRequest : Option AutopilotRequest

namespace Toast

def isLive (toast : Toast) : Bool := !toast.exiting

/-- Build a new record: the caller's options over the defaults, then the settings. The number makes
the edition, the birth, and the identity where none is given. -/
def create (options : Options) (defaults : Defaults) (settings : Settings) (screen : Screen)
    (number : Nat) : Toast :=
  let merged := defaults.options.merged options
  let lifespan := merged.lifespan.getD settings.lifespan
  { id := merged.id.getD (.generated number)
    edition := number
    kind := merged.kind.getD .info
    title := merged.title
    description := merged.description
    position := merged.position.getD defaults.position
    lifespan := lifespan
    icon := merged.icon
    styles := merged.styles
    action := merged.action
    animation := merged.animation.getD settings.animation
    anchor := merged.anchor.bind (·.resolve screen)
    autopilot := Autopilot.plan merged.autopilot lifespan settings
    lifecycle := .entering
    birth := number
    exiting := false
    onDismiss := merged.onDismiss
    onAutoClose := merged.onAutoClose
    autopilotRequest := merged.autopilot }

/-- The lifespan of a revised record: the one asked for; else a toast at work stays up, and one that
is done with its work gets the lifespan of the settings. -/
def revisedLifespan (toast : Toast) (top : Options) (settings : Settings) : Lifespan :=
  match top.lifespan with
  | some lifespan => lifespan
  | none =>
      if top.kind.getD toast.kind = .loading then .persistent
      else if toast.kind = .loading then settings.lifespan
      else toast.lifespan

/-- Layer options over a record. The result is a new edition and never exiting; identity, lifecycle
and birth carry over. -/
def revise (toast : Toast) (top : Options) (settings : Settings) (screen : Screen) (number : Nat) :
    Toast :=
  let lifespan := toast.revisedLifespan top settings
  let request := top.autopilot <|> toast.autopilotRequest
  { id := toast.id
    edition := number
    kind := top.kind.getD toast.kind
    title := top.title <|> toast.title
    description := top.description <|> toast.description
    position := top.position.getD toast.position
    lifespan := lifespan
    icon := top.icon <|> toast.icon
    styles := toast.styles.merged top.styles
    action := top.action <|> toast.action
    animation := top.animation.getD toast.animation
    anchor := top.anchor.bind (·.resolve screen) <|> toast.anchor
    autopilot := Autopilot.plan request lifespan settings
    lifecycle := toast.lifecycle
    birth := toast.birth
    exiting := false
    onDismiss := top.onDismiss <|> toast.onDismiss
    onAutoClose := top.onAutoClose <|> toast.onAutoClose
    autopilotRequest := request }

def leave (toast : Toast) : Toast :=
  { toast with
    exiting := true
    lifecycle := (toast.lifecycle.advance .exiting).getD toast.lifecycle }

def painted? (toast : Toast) : Option Toast :=
  (toast.lifecycle.advance .visible).map fun lifecycle => { toast with lifecycle }

def motion (toast : Toast) (phase : Phase) (target : Option Rect) : Motion :=
  toast.animation.motion phase { position := toast.position, anchor := toast.anchor, target }

end Toast

end Toasts

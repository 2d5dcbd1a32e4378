import Toasts.Geometry
import Toasts.Lifespan
import Toasts.Names

/-!
Everything a caller may ask of a toast. Every field may be left open; layers of options are stacked
with `Options.merged`, and in each field the highest layer that sets it wins. What the caller wants
run later is known to the engine by a handle only.
-/

namespace Toasts

/-- The identity of a toast: given by a caller, or made up by the engine with a serial number. Two
records with the same identity are the same toast. -/
inductive ToastId where
  | named (text : String)
  | generated (serial : Nat)
  deriving DecidableEq

/-- A handle to code of the caller. Only the caller knows what it does. -/
structure Hook where
  handle : Nat
  deriving DecidableEq

structure ActionButton where
  label : String
  onClick : Hook
  deriving DecidableEq

inductive Icon where
  /-- No icon at all. -/
  | hidden
  | named (name : String)
  deriving DecidableEq

/-- What triggered a toast: a fixed box, or an element whose bounds are read when the toast is
built. -/
inductive Anchor where
  | fixed (bounds : Rect)
  | element (name : String)
  deriving DecidableEq

structure Screen where
  bounds : String → Option Rect := fun _ => none

namespace Screen

def place (screen : Screen) (element : String) (rect : Option Rect) : Screen :=
  ⟨fun name => if name = element then rect else screen.bounds name⟩

end Screen

def Anchor.resolve (screen : Screen) : Anchor → Option Rect
  | .fixed bounds => some bounds
  | .element name => screen.bounds name

inductive AutopilotRequest where
  | switch (on : Bool)
  | custom (expand collapse : Option Span)
  deriving DecidableEq

def AutopilotRequest.isEnabled : AutopilotRequest → Bool
  | .switch on => on
  | .custom _ _ => true

structure Styles where
  get : StyleSlot → Option String := fun _ => none

namespace Styles

def set (styles : Styles) (slot : StyleSlot) (value : String) : Styles :=
  ⟨fun other => if other = slot then some value else styles.get other⟩

def merged (styles top : Styles) : Styles :=
  ⟨fun slot => top.get slot <|> styles.get slot⟩

def entries (styles : Styles) : List (StyleSlot × String) :=
  StyleSlot.all.filterMap fun slot => (styles.get slot).map (slot, ·)

end Styles

structure Options where
  id : Option ToastId := none
  kind : Option Kind := none
  title : Option String := none
  description : Option String := none
  position : Option Position := none
  lifespan : Option Lifespan := none
  icon : Option Icon := none
  styles : Styles := {}
  action : Option ActionButton := none
  animation : Option Animation := none
  anchor : Option Anchor := none
  autopilot : Option AutopilotRequest := none
  onDismiss : Option Hook := none
  onAutoClose : Option Hook := none

namespace Options

def empty : Options := {}

/-- The options under another layer; every field that `top` sets wins. -/
def merged (options top : Options) : Options where
  id := top.id <|> options.id
  kind := top.kind <|> options.kind
  title := top.title <|> options.title
  description := top.description <|> options.description
  position := top.position <|> options.position
  lifespan := top.lifespan <|> options.lifespan
  icon := top.icon <|> options.icon
  styles := options.styles.merged top.styles
  action := top.action <|> options.action
  animation := top.animation <|> options.animation
  anchor := top.anchor <|> options.anchor
  autopilot := top.autopilot <|> options.autopilot
  onDismiss := top.onDismiss <|> options.onDismiss
  onAutoClose := top.onAutoClose <|> options.onAutoClose

/-- Layers of options stacked from the lowest up. -/
def stacked (layers : List Options) : Options := layers.foldl merged empty

def ofKind (options : Options) (kind : Kind) : Options := { options with kind := some kind }

/-- The same options for a toast that is still at work: it stays up whatever lifespan was asked
for. -/
def atWork (options : Options) : Options :=
  { options with kind := some .loading, lifespan := some .persistent }

end Options

end Toasts

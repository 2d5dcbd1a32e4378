import Toasts.Configuration.Tree
import Toasts.Decimal.Layout
import Toasts.Failure

/-!
The fields of a configuration as a tree gives them. A field that is not given has its standard
value; one that is given has to be of its kind, where texts, numbers and truth values stand for each
other as far as they can. Names are not looked up yet.
-/

namespace Toasts.Configuration

namespace Tree

def asText : Tree → Except ConfigurationFault String
  | .written text => .ok text
  | .flag value => .ok (if value then "true" else "false")
  | .whole number => .ok (toString number)
  | .float number => .ok (Decimal.plainText.render (.ofDouble number))
  | _ => .error .shape

def asFlag : Tree → Except ConfigurationFault Bool
  | .flag value => .ok value
  | .whole number => .ok (number != 0)
  | .float number => .ok (number != 0.0)
  | .written text =>
      match Text.lower text with
      | "1" | "true" | "on" | "yes" => .ok true
      | "0" | "false" | "off" | "no" => .ok false
      | _ => .error .shape
  | _ => .error .shape

/-- A text as a count of at most 64 bits: a word of truth, or digits with or without a plus sign. -/
def countOfText (text : String) : Except ConfigurationFault Nat :=
  match Text.lower text with
  | "true" | "on" | "yes" => .ok 1
  | "false" | "off" | "no" => .ok 0
  | _ =>
      let digits := match text.toList with
        | '+' :: digits => digits
        | digits => digits
      let number := Text.digitsValue digits
      if digits ≠ [] ∧ digits.all Text.isDigit ∧ number < unsignedBound then .ok number
      else .error .shape

/-- A value as a count of at most 64 bits. A fraction is rounded, a half away from zero, and kept
within bounds. -/
def asCount : Tree → Except ConfigurationFault Nat
  | .flag value => .ok (if value then 1 else 0)
  | .whole number => if number < 0 then .error .shape else .ok number.toNat
  | .float number => .ok number.round.toUInt64.toNat
  | .written text => countOfText text
  | _ => .error .shape

def asLifespan : Tree → Except ConfigurationFault Lifespan
  | .whole number => .ok (.ofMillis number)
  | .written text =>
      match Lifespan.parse text with
      | .ok lifespan => .ok lifespan
      | .error ⟨_, .overrun⟩ => .error .overrun
      | .error _ => .error .shape
  | _ => .error .shape

def asSpan : Tree → Except ConfigurationFault Span
  | .whole number => if number < 0 then .error .shape else .ok (.ofMillis number.toNat)
  | .written text =>
      match Span.parse (Text.trim text) with
      | .ok span => .ok span
      | .error .overrun => .error .overrun
      | .error _ => .error .shape
  | _ => .error .shape

end Tree

abbrev Section := String → Option Tree

/-- A section that gives its fields by name, or by place in the order of `names`. One that is not
given gives no field. -/
def sectionOf (names : List String) : Option Tree → Except ConfigurationFault Section
  | none => .ok fun _ => none
  | some (.list elements) => .ok fun name => (names.findIdx? (· == name)).bind (elements[·]?)
  | some tree@(.table _) => .ok tree.get?
  | some _ => .error .shape

def Section.field {α : Type} (fields : Section) (name : String) (standard : α)
    (read : Tree → Except ConfigurationFault α) : Except ConfigurationFault α :=
  match fields name with
  | some tree => read tree
  | none => .ok standard

structure Draft where
  position : String := "top-right"
  lifespan : Lifespan := ({} : Settings).lifespan
  exitWindow : Span := ({} : Settings).exitWindow
  animation : String := "slide"
  autopilot : AutopilotDefaults := {}
  /-- How many snapshots may wait for the renderer. -/
  queueBound : Nat := 32
  deriving DecidableEq

namespace Draft

/-- The fields that a tree gives, read in the order in which a draft lists them, so that the first
fault counts. A tree has its fields in no order of its own: where one field is of the wrong kind and
another one overruns, either of the two might be reported. -/
def ofTree (tree : Tree) : Except ConfigurationFault Draft := do
  let standard : Draft := {}
  let toasts ← sectionOf ["position", "duration", "exit_duration", "animation"] (tree.get? "toasts")
  let position ← toasts.field "position" standard.position Tree.asText
  let lifespan ← toasts.field "duration" standard.lifespan Tree.asLifespan
  let exitWindow ← toasts.field "exit_duration" standard.exitWindow Tree.asSpan
  let animation ← toasts.field "animation" standard.animation Tree.asText
  let autopilot ← sectionOf ["enabled", "expand_after", "collapse_after"] (tree.get? "autopilot")
  let enabled ← autopilot.field "enabled" standard.autopilot.enabled Tree.asFlag
  let expandAfter ← autopilot.field "expand_after" standard.autopilot.expandAfter Tree.asSpan
  let collapseAfter ← autopilot.field "collapse_after" standard.autopilot.collapseAfter Tree.asSpan
  let renderer ← sectionOf ["queue_bound"] (tree.get? "renderer")
  let queueBound ← renderer.field "queue_bound" standard.queueBound Tree.asCount
  return { position, lifespan, exitWindow, animation, queueBound
           autopilot := { enabled, expandAfter, collapseAfter } }

end Draft

end Toasts.Configuration

import Toasts.Span.Text
import Toasts.Text.Quoted

/-!
How long a toast stays up. A lifespan of no time counts as persistent: such a toast is never
dismissed by its own countdown.
-/

namespace Toasts

/-- How long a toast stays up before it dismisses itself. -/
inductive Lifespan where
  | finite (span : Span)
  /-- Never dismissed by its own countdown. -/
  | persistent
  deriving DecidableEq

namespace Lifespan

instance : Inhabited Lifespan := ⟨.persistent⟩

/-- A lifespan in whole milliseconds; zero and less mean persistent. -/
def ofMillis (millis : Int) : Lifespan :=
  if millis ≤ 0 then .persistent else .finite (Span.ofMillis millis.toNat)

def countdown : Lifespan → Option Span
  | .finite span => if span.isZero then none else some span
  | .persistent => none

def isPersistent (lifespan : Lifespan) : Bool := lifespan.countdown.isNone

def render (lifespan : Lifespan) : String :=
  match lifespan.countdown with
  | some span => span.render
  | none => "none"

/-- Why a text is no lifespan: the trimmed text, and what is wrong with it as a span. -/
structure Fault where
  text : String
  cause : Span.Fault
  deriving DecidableEq

def Fault.message (fault : Fault) : String :=
  s!"invalid toast duration {Text.quoted fault.text}: {fault.cause.message}"

def persistentWords : List String := ["none", "never", "persistent", "infinite"]

/-- Read a lifespan: a word for persistent, whole milliseconds, or a written span. -/
def parse (text : String) : Except Fault Lifespan :=
  let trimmed := Text.trim text
  if persistentWords.contains (Text.lower trimmed) then .ok .persistent
  else match Text.readInt64 trimmed with
    | some millis => .ok (ofMillis millis)
    | none => match Span.parse trimmed with
      | .ok span => .ok (.finite span)
      | .error cause => .error ⟨trimmed, cause⟩

end Lifespan

end Toasts

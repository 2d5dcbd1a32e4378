import Toasts.Bounds

/-!
A span of time: a whole number of nanoseconds that stays below 2⁶⁴ seconds. Subtraction stops at
zero, and a count too large for a span becomes the longest one.
-/

namespace Toasts

def nanosPerSecond : Nat := 1000000000

def nanosPerMilli : Nat := 1000000

/-- Every span is shorter than this number of nanoseconds: 2⁶⁴ seconds. -/
def spanLimit : Nat := unsignedBound * nanosPerSecond

structure Span where
  nanos : Nat
  bounded : nanos < spanLimit
  deriving DecidableEq

namespace Span

def zero : Span := ⟨0, by decide⟩

def longest : Span := ⟨spanLimit - 1, by decide⟩

instance : Inhabited Span := ⟨zero⟩

def ofNanos? (nanos : Nat) : Option Span :=
  if bounded : nanos < spanLimit then some ⟨nanos, bounded⟩ else none

def ofNanos (nanos : Nat) : Span :=
  (ofNanos? nanos).getD longest

def ofMillis (millis : Nat) : Span :=
  ofNanos (millis * nanosPerMilli)

def ofSeconds (seconds : Nat) : Span :=
  ofNanos (seconds * nanosPerSecond)

def seconds (span : Span) : Nat := span.nanos / nanosPerSecond

def subsecond (span : Span) : Nat := span.nanos % nanosPerSecond

def wholeMillis (span : Span) : Nat := span.nanos / nanosPerMilli

def coveringMillis (span : Span) : Nat := (span.nanos + (nanosPerMilli - 1)) / nanosPerMilli

/-- The number of milliseconds nearest to the span; a half goes up. -/
def nearestMillis (span : Span) : Nat := (span.nanos + nanosPerMilli / 2) / nanosPerMilli

def isZero (span : Span) : Bool := span.nanos == 0

def after (span : Span) (passed : Nat) : Span :=
  ⟨span.nanos - passed, Nat.lt_of_le_of_lt (Nat.sub_le _ _) span.bounded⟩

def shorter (first second : Span) : Span :=
  if second.nanos < first.nanos then second else first

def plus? (first second : Span) : Option Span :=
  ofNanos? (first.nanos + second.nanos)

@[simp] theorem nanos_ofNanos (nanos : Nat) (bounded : nanos < spanLimit) :
    (ofNanos nanos).nanos = nanos := by
  simp [ofNanos, ofNanos?, bounded]

@[simp] theorem nanos_after (span : Span) (passed : Nat) :
    (span.after passed).nanos = span.nanos - passed := rfl

theorem isZero_iff (span : Span) : span.isZero = true ↔ span = zero := by
  cases span
  simp [isZero, zero]

end Span

end Toasts

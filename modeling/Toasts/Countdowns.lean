import Toasts.Agenda

/-!
Countdowns that can be paused. Each key has at most one. A pause freezes all of them and keeps what
is left of each; a resumption starts each again for exactly that. Whoever waits for a countdown does
so under its generation: when the wait is over under another generation than the countdown's own, or
during a pause, it comes to nothing.
-/

namespace Toasts

/-- A countdown: its key, what was left of it at a moment, and what it is for. -/
structure Countdown (Key Action : Type) where
  key : Key
  generation : Nat
  remaining : Span
  since : Nat
  action : Action

def Countdown.left {Key Action : Type} (countdown : Countdown Key Action) (now : Nat) : Span :=
  countdown.remaining.after ((now - countdown.since) * nanosPerMilli)

/-- A wait for one generation of a countdown. -/
structure Vigil (Key : Type) where
  key : Key
  generation : Nat
  delay : Span

structure Countdowns (Key Action : Type) where
  entries : List (Countdown Key Action) := []
  paused : Bool := false
  /-- The last generation given out. -/
  generation : Nat := 0

namespace Countdowns

variable {Key Action : Type} [DecidableEq Key]

def get? (countdowns : Countdowns Key Action) (key : Key) : Option (Countdown Key Action) :=
  countdowns.entries.find? (·.key = key)

def has (countdowns : Countdowns Key Action) (key : Key) : Bool :=
  (countdowns.get? key).isSome

def cancel (countdowns : Countdowns Key Action) (key : Key) : Countdowns Key Action :=
  { countdowns with entries := countdowns.entries.filter (·.key ≠ key) }

def cancelAll (countdowns : Countdowns Key Action) : Countdowns Key Action :=
  { countdowns with entries := [] }

/-- Start the countdown of a key, in place of the one it had; no delay leaves all as it is. During a
pause the countdown is noted and nobody waits for it yet. -/
def schedule (countdowns : Countdowns Key Action) (key : Key) (delay : Span) (action : Action)
    (now : Nat) : Countdowns Key Action × List (Vigil Key) :=
  if delay.isZero then (countdowns, [])
  else
    let generation := countdowns.generation + 1
    let others := (countdowns.cancel key).entries
    ({ countdowns with
        entries := others ++ [⟨key, generation, delay, now, action⟩]
        generation },
      if countdowns.paused then [] else [⟨key, generation, delay⟩])

def remaining? (countdowns : Countdowns Key Action) (key : Key) (now : Nat) : Option Span :=
  (countdowns.get? key).map fun countdown =>
    if countdowns.paused then countdown.remaining else countdown.left now

/-- Freeze every countdown. A second pause changes nothing. -/
def pause (countdowns : Countdowns Key Action) (now : Nat) : Countdowns Key Action :=
  if countdowns.paused then countdowns
  else
    { countdowns with
      paused := true
      entries := countdowns.entries.map fun countdown =>
        { countdown with remaining := countdown.left now } }

/-- Give each of the countdowns a new generation from `generation + 1` on and start it now. -/
def restart (now : Nat) : List (Countdown Key Action) → Nat → List (Countdown Key Action)
  | [], _ => []
  | countdown :: rest, generation =>
      { countdown with since := now, generation := generation + 1 } ::
        restart now rest (generation + 1)

structure Resumption (Key Action : Type) where
  countdowns : Countdowns Key Action
  vigils : List (Vigil Key)
  /-- The countdowns that had nothing left; they are no longer held and their actions are due. -/
  due : List (Countdown Key Action)

/-- Start every frozen countdown again, and hand out those with nothing left. Without a pause
nothing happens. -/
def resume (countdowns : Countdowns Key Action) (now : Nat) : Resumption Key Action :=
  if countdowns.paused then
    let frozen := countdowns.entries.filter fun countdown => !countdown.remaining.isZero
    let entries := restart now frozen countdowns.generation
    { countdowns := { entries, paused := false, generation := countdowns.generation + frozen.length }
      vigils := entries.map fun countdown =>
        ⟨countdown.key, countdown.generation, countdown.remaining⟩
      due := countdowns.entries.filter fun countdown => countdown.remaining.isZero }
  else { countdowns, vigils := [], due := [] }

/-- The end of a wait for one generation of a countdown: the countdown it ends, if it is still that
generation and running. -/
def expire? (countdowns : Countdowns Key Action) (key : Key) (generation : Nat) :
    Option (Countdowns Key Action × Countdown Key Action) :=
  match countdowns.get? key with
  | some countdown =>
      if countdown.generation = generation ∧ countdowns.paused = false then
        some (countdowns.cancel key, countdown)
      else none
  | none => none

end Countdowns

end Toasts

import Toasts.Countdowns
import Toasts.Promise
import Toasts.Store

/-!
The state of the engine. The engine never runs code of its caller: when a listener or a callback has
to run, it stops with a frame that names the call, and the caller has the turn until it is done. In
its turn the caller may start further operations, to any depth; the frames below keep what is left
to do. So a run is a sequence of small steps, and what lies between the steps is an ordinary value.
-/

namespace Toasts

inductive Cause where
  | user
  | countdown
  deriving DecidableEq

inductive Call where
  /-- A listener receives a snapshot. -/
  | deliver (listener : Listener) (snapshot : List Toast)
  /-- A toast's countdown has dismissed it; the toast is the record as it was before. -/
  | autoClosed (hook : Hook) (toast : Toast)
  /-- A toast has been dismissed; the toast is the record as it was before. -/
  | dismissed (hook : Hook) (toast : Toast)
  /-- A toast's button has been clicked. -/
  | clicked (action : ActionButton)
  /-- An errand that the caller had put on the agenda under this ticket. -/
  | errand (ticket : Nat)

inductive Answer where
  | done
  | flag (value : Bool)
  | toast (id : ToastId)
  | toasts (ids : List ToastId)
  | listener (number : Nat)
  | promise (number : Nat)
  | outcome (outcome : Outcome)
  deriving DecidableEq

inductive Frame where
  /-- Deliver a snapshot to the listeners that have not had it yet. -/
  | publish (version : Nat) (snapshot : List Toast) (pending : List Listener)
  /-- Bring the countdown of a toast in step with its lifespan. -/
  | arm (id : ToastId) (lifespan : Lifespan)
  /-- The exit of a toast is published: stop its countdown and begin with its callbacks. -/
  | leave (toast : Toast) (cause : Cause)
  /-- Run the dismissal callback of a toast. -/
  | farewell (toast : Toast)
  /-- Let the exit window of a toast begin. -/
  | exitWindow (toast : Toast)
  /-- Stop the countdowns of these toasts, or every countdown. -/
  | disarm (ids : Option (List ToastId))
  /-- Dismiss the toasts whose countdowns had nothing left. -/
  | due (ids : List ToastId)
  /-- The caller's code is running. -/
  | caller (call : Call)
  /-- An operation of the caller is finished, and this is what it came to. -/
  | returned (answer : Answer)

inductive Deed where
  /-- The wait for one generation of a countdown is over. -/
  | expire (id : ToastId) (generation : Nat)
  /-- The exit window of one edition of a toast is over. -/
  | remove (id : ToastId) (edition : Nat)
  /-- An errand of the caller. -/
  | errand (ticket : Nat)
  deriving DecidableEq

structure Tracked where
  number : Nat
  toast : ToastId
  options : PromiseOptions

structure Engine where
  settings : Settings
  defaults : Defaults := {}
  store : Store := {}
  countdowns : Countdowns ToastId Unit := {}
  agenda : Agenda Deed := {}
  screen : Screen := {}
  promises : List Tracked := []
  /-- How many numbers have been given out to creations, revisions and promises. -/
  numbers : Nat := 0
  /-- What is left to do, the next thing first. -/
  frames : List Frame := []

namespace Engine

/-- The moment it is, in milliseconds from the start. -/
def now (engine : Engine) : Nat := engine.agenda.now

def get? (engine : Engine) (id : ToastId) : Option Toast := engine.store.get? id

def remaining? (engine : Engine) (id : ToastId) : Option Span :=
  engine.countdowns.remaining? id engine.now

def motion? (engine : Engine) (id : ToastId) (phase : Phase) (target : Option Rect) :
    Option Motion :=
  (engine.get? id).map (·.motion phase target)

inductive Turn where
  /-- The engine has work under way. -/
  | engine
  /-- The caller's code is running. -/
  | caller (call : Call)
  /-- An operation of the caller has come to something. -/
  | returned (answer : Answer)
  /-- Nothing is under way. -/
  | idle

def turn (engine : Engine) : Turn :=
  match engine.frames with
  | [] => .idle
  | .caller call :: _ => .caller call
  | .returned answer :: _ => .returned answer
  | _ => .engine

def push (engine : Engine) (frames : List Frame) : Engine :=
  { engine with frames := frames ++ engine.frames }

/-- The frame that delivers the current snapshot to the current listeners. -/
def announcement (engine : Engine) : Frame :=
  .publish engine.store.version engine.store.toasts engine.store.listeners

def keepVigils (agenda : Agenda Deed) (vigils : List (Vigil ToastId)) : Agenda Deed :=
  vigils.foldl (fun agenda vigil => agenda.spawn vigil.delay (.expire vigil.key vigil.generation))
    agenda

end Engine

end Toasts

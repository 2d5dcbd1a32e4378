import Toasts.Console.Stage
import Toasts.Describe
import Toasts.Script

/-!
A session is an engine together with its caller, who plays a main script: what is left of the
script, what the caller keeps under names, and the log. Whenever the engine calls, the script behind
the hook is played, nested as deep as the calls are.
-/

namespace Toasts

open Script Console

inductive Entry where
  | note (text : String)
  | frame (picture : Picture)
  | heard (name : String) (moment : Nat) (snapshot : List Toast)
  /-- A callback of a toast has been called; the flag tells whether the store's record under the
  same identity is exiting, if there is one. -/
  | called (autoClose : Bool) (moment : Nat) (toast : Toast) (exiting : Option Bool)
  | clicked (label : String)
  /-- An act of a callback or listener is done. -/
  | did (act : String) (result : Result)

structure Observation where
  moment : Nat
  result : Result
  log : List Entry
  /-- Whether there has been a new snapshot. -/
  changed : Bool
  paused : Bool
  /-- The toasts, with what is left of their countdowns. -/
  toasts : List (Toast × Option Span)

structure Watcher where
  number : Nat
  name : String
  script : Hook
  condition : Condition
  times : Nat

inductive Progress where
  /-- Nobody waits for it yet. -/
  | kept
  /-- A task of its own waits for it. -/
  | spawned
  | finished (outcome : Outcome)
  | cancelled

structure Pledge where
  number : Nat
  work : Work
  progress : Progress

inductive Activity where
  /-- These acts are to be done. -/
  | script (acts : List Act)
  /-- This act is under way, and these come after it. -/
  | acting (act : Act) (rest : List Act)
  /-- The settlement of a tracked piece of work is under way. -/
  | settling (number : Nat)

inductive Block where
  | moment (deadline : Nat)
  /-- Until nothing more is ready. -/
  | quiet
  | pledge (number : Nat)

structure Session where
  stage : Stage
  naming : Naming
  scripts : Hook → List Act
  /-- The rest of the main script. -/
  instructions : List Instruction
  /-- What the main script is in the middle of, and what it waits for. -/
  main : Option Activity := none
  block : Option Block := none
  /-- The calls under way, innermost first. -/
  calls : List Activity := []
  ids : List (String × ToastId) := []
  editions : List (String × Nat) := []
  watchers : List Watcher := []
  /-- The subscriptions and the tracked pieces of work that have a name. -/
  subscribed : List (String × Nat) := []
  pledged : List (String × Nat) := []
  pledges : List Pledge := []
  /-- The log of the current step, last entry first, and the results of its acts. -/
  log : List Entry := []
  results : List Result := []
  /-- The version of the store when the current step began. -/
  version : Nat := 0
  /-- The steps so far, last one first. -/
  observations : List Observation := []

namespace Session

def engine (session : Session) : Engine := session.stage.engine

def withEngine (session : Session) (engine : Engine) : Session :=
  { session with stage := { session.stage with engine } }

def lookup {α : Type} (name : String) (entries : List (String × α)) : Option α :=
  (entries.find? (·.1 == name)).map (·.2)

def forget {α : Type} (name : String) (entries : List (String × α)) : List (String × α) :=
  entries.filter (·.1 != name)

def resolve (session : Session) : Ref → ToastId
  | .literal text => .named text
  | .stored name => (lookup name session.ids).getD (.named ("$" ++ name))

def options (session : Session) (draft : Draft) : Options :=
  { draft.options with id := draft.id.map session.resolve }

def fill (value text : String) : String := value.intercalate (text.splitOn "\x7b\x7d")

def filled (options : Options) (value : String) : Options :=
  { options with
    title := options.title.map (fill value)
    description := options.description.map (fill value) }

def resolver (session : Session) : DraftResolver → Resolver
  | .fixed draft => .fixed (session.options draft)
  | .computed draft => .computed (filled (session.options draft))

def holds (session : Session) (snapshot : List Toast) : Condition → Bool
  | .always => true
  | .count toasts => snapshot.length == toasts
  | .has id => snapshot.any fun toast => decide (toast.id = session.resolve id)
  | .exiting id =>
      snapshot.any fun toast => decide (toast.id = session.resolve id) && toast.exiting

def write (session : Session) (entry : Entry) : Session :=
  { session with log := entry :: session.log }

def perform (session : Session) (operation : Operation) : Session × Answer :=
  let (engine, answer) := session.engine.perform operation
  (session.withEngine engine, answer)

def request (session : Session) (operation : Operation) : Session :=
  session.withEngine (session.engine.request operation)

def progress (session : Session) (number : Nat) (progress : Progress) : Session :=
  { session with
    pledges := session.pledges.map fun pledge =>
      if pledge.number = number then { pledge with progress } else pledge }

def pledge? (session : Session) (number : Nat) : Option Pledge :=
  session.pledges.find? (·.number = number)

end Session

end Toasts

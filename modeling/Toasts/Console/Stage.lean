import Toasts.Console.Renderer
import Toasts.Engine.Step

/-!
An engine with the console's renderer before it. The renderer listens to the store; snapshots wait
for it in a bounded queue, and one that finds the queue full is lost. The renderer draws as a task
of its own, so it sees a snapshot only after whoever made it has let go of the turn.
-/

namespace Toasts.Console

def paintTicket : Nat := 0

structure Easel where
  renderer : Renderer := {}
  /-- The number of its subscription. -/
  feed : Nat
  capacity : Nat
  queue : List (List Toast) := []
  /-- Whether its task is on the agenda or under way. -/
  awake : Bool := true
  /-- The toasts of the last frame that are still to be reported as painted. -/
  reports : List ToastId := []

structure Stage where
  engine : Engine
  easel : Option Easel := none

namespace Stage

def withRenderer (engine : Engine) (capacity : Nat) : Stage :=
  let store := engine.store.subscribe ⟨0⟩
  { engine := { engine with store, agenda := engine.agenda.spawn .zero (.errand paintTicket) }
    easel := some { feed := store.subscriptions, capacity } }

/-- A queue has to have room, but cannot have room for this many snapshots: 2⁵⁹. -/
def queueBound : Nat := 576460752303423488

def withRenderer? (engine : Engine) (capacity : Nat) : Option Stage :=
  if 0 < capacity ∧ capacity < queueBound then some (withRenderer engine capacity) else none

def feed (stage : Stage) (easel : Easel) (snapshot : List Toast) : Stage :=
  let easel' := if easel.queue.length < easel.capacity then
      { easel with queue := easel.queue ++ [snapshot] }
    else easel
  let agenda := if easel.awake then stage.engine.agenda
    else stage.engine.agenda.spawn .zero (.errand paintTicket)
  { engine := { stage.engine with agenda }.resumeTurn
    easel := some { easel' with awake := true } }

/-- One step of the renderer's task: report a painted toast, draw the next snapshot, or sleep. -/
def paint (stage : Stage) (easel : Easel) : Stage × Option Picture :=
  match easel.reports, easel.queue with
  | id :: reports, _ =>
      ({ engine := stage.engine.request (.markVisible id), easel := some { easel with reports } },
        none)
  | [], snapshot :: queue =>
      let (renderer, picture) := easel.renderer.draw stage.engine snapshot
      ({ stage with
          easel := some { easel with renderer, queue, reports := Renderer.reports snapshot } },
        some picture)
  | [], [] =>
      ({ engine := stage.engine.resumeTurn, easel := some { easel with awake := false } }, none)

/-- One step that needs nothing of the caller, with the frame it draws, or nothing when the turn is
the caller's or nobody's. -/
def step? (stage : Stage) : Option (Stage × Option Picture) :=
  match stage.engine.turn, stage.easel with
  | .engine, _ => some ({ stage with engine := stage.engine.step }, none)
  | .caller (.deliver listener snapshot), some easel =>
      if listener.id = easel.feed then some (stage.feed easel snapshot, none) else none
  | .caller (.errand ticket), some easel =>
      if ticket = paintTicket then some (stage.paint easel) else none
  | .returned _, some _ =>
      match stage.engine.frames with
      | _ :: .caller (.errand ticket) :: _ =>
          if ticket = paintTicket then some ({ stage with engine := stage.engine.resumeTurn }, none)
          else none
      | _ => none
  | _, _ => none

end Stage

end Toasts.Console

import Toasts.Span

/-!
Work and the time it waits for. Time moves in whole milliseconds. Work is started in the order it
was put on the agenda, and only then begins to wait; a wait ends at the first whole millisecond that
leaves nothing of it, and waits that end together are taken up in the order they began.
-/

namespace Toasts

inductive Task (Work : Type) where
  /-- Begin to wait, and go on with the work when the wait is over. -/
  | start (delay : Span) (work : Work)
  | resume (work : Work)

structure Wait (Work : Type) where
  deadline : Nat
  work : Work

/-- The time, the tasks that can go on now, oldest first, and the waits in the order they began. -/
structure Agenda (Work : Type) where
  now : Nat := 0
  ready : List (Task Work) := []
  waiting : List (Wait Work) := []

namespace Agenda

variable {Work : Type}

def spawn (agenda : Agenda Work) (delay : Span) (work : Work) : Agenda Work :=
  { agenda with ready := agenda.ready ++ [.start delay work] }

def deadline (agenda : Agenda Work) (delay : Span) : Nat :=
  agenda.now + delay.coveringMillis

/-- Take up the oldest task. Either it begins to wait, or its work is to be done now. -/
def next? (agenda : Agenda Work) : Option (Agenda Work × Option Work) :=
  match agenda.ready with
  | [] => none
  | .resume work :: rest => some ({ agenda with ready := rest }, some work)
  | .start delay work :: rest =>
      if delay.isZero then some ({ agenda with ready := rest }, some work)
      else
        let wait := ⟨agenda.deadline delay, work⟩
        some ({ agenda with ready := rest, waiting := agenda.waiting ++ [wait] }, none)

def earliest (agenda : Agenda Work) : Option Nat :=
  (agenda.waiting.map Wait.deadline).min?

/-- Let time pass up to a moment, not beyond the earliest deadline; waits that end by then are
over. -/
def advance (agenda : Agenda Work) (moment : Nat) : Agenda Work where
  now := moment
  ready := agenda.ready ++
    (agenda.waiting.filter (·.deadline ≤ moment)).map fun wait => .resume wait.work
  waiting := agenda.waiting.filter (moment < ·.deadline)

end Agenda

end Toasts

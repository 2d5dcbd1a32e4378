import Mathlib.Data.List.Perm.Basic
import Toasts.Agenda

/-!
What an agenda holds. Every piece of work is put on it once, begins to wait once and comes off once;
in between neither the passing of time nor the order in which tasks are taken up loses or doubles it.
-/

namespace Toasts

variable {Work : Type}

def Task.work : Task Work → Work
  | .start _ work => work
  | .resume work => work

/-- The work of a task and the earliest moment at which it can be done. -/
def Task.ending (now : Nat) : Task Work → Work × Nat
  | .start delay work => (work, now + delay.coveringMillis)
  | .resume work => (work, now)

/-- The work that a task is to wait for, and when the wait is due if it begins now. -/
def Task.wait? (now : Nat) : Task Work → Option (Work × Nat)
  | .start delay work => some (work, now + delay.coveringMillis)
  | .resume _ => none

def Task.hasBegun : Task Work → Bool
  | .start _ _ => false
  | .resume _ => true

theorem Span.coveringMillis_of_isZero {span : Span} (empty : span.isZero = true) :
    span.coveringMillis = 0 := by
  rw [(Span.isZero_iff span).mp empty]
  decide

namespace Agenda

/-- All work on the agenda, each piece with the earliest moment at which it can be done. -/
def endings (agenda : Agenda Work) : List (Work × Nat) :=
  agenda.ready.map (Task.ending agenda.now) ++
    agenda.waiting.map fun wait => (wait.work, wait.deadline)

def works (agenda : Agenda Work) : List Work :=
  agenda.ready.map Task.work ++ agenda.waiting.map Wait.work

/-- Every piece of work has begun to wait; some of the waits may be over. -/
def AllBegun (agenda : Agenda Work) : Prop := ∀ task ∈ agenda.ready, task.hasBegun = true

instance (agenda : Agenda Work) : Decidable agenda.AllBegun :=
  inferInstanceAs (Decidable (∀ task ∈ agenda.ready, task.hasBegun = true))

/-- The waits that come on an agenda when it becomes another one. Each is due its delay after it is
put there, also if its task gets to begin later than that. -/
def asked (agenda after : Agenda Work) : List (Work × Nat) :=
  (after.ready.drop agenda.ready.length).filterMap (Task.wait? agenda.now)

def bringForward (agenda : Agenda Work) (place : Nat) : Agenda Work :=
  { agenda with ready := agenda.ready[place]?.toList ++ agenda.ready.eraseIdx place }

@[simp] theorem bringForward_zero (agenda : Agenda Work) : agenda.bringForward 0 = agenda := by
  cases agenda with
  | mk now ready waiting => cases ready <;> rfl

/-- What taking up one of the ready tasks comes to: it begins to wait, or its work is to be done. -/
inductive TakesUp (agenda : Agenda Work) : Agenda Work → Option Work → Prop where
  | begins (delay : Span) (work : Work) (rest : List (Task Work))
      (chosen : agenda.ready.Perm (.start delay work :: rest)) (lasting : delay.isZero = false) :
      TakesUp agenda
        { agenda with
          ready := rest, waiting := agenda.waiting ++ [⟨agenda.deadline delay, work⟩] } none
  | ends (task : Task Work) (rest : List (Task Work)) (chosen : agenda.ready.Perm (task :: rest))
      (due : ∀ delay work, task = .start delay work → delay.isZero = true) :
      TakesUp agenda { agenda with ready := rest } (some task.work)

theorem perm_bringForward (ready : List (Task Work)) (place : Nat) :
    ready.Perm (ready[place]?.toList ++ ready.eraseIdx place) := by
  induction ready generalizing place with
  | nil => simp
  | cons task rest ih =>
      cases place with
      | zero => simp
      | succ place =>
          have moved := (ih place).cons task
          simpa using moved.trans List.perm_middle.symm

theorem next?_takesUp (agenda after : Agenda Work) (place : Nat) (outcome : Option Work)
    (taken : (agenda.bringForward place).next? = some (after, outcome)) :
    TakesUp agenda after outcome := by
  have order := perm_bringForward agenda.ready place
  cases forward : agenda.ready[place]?.toList ++ agenda.ready.eraseIdx place with
  | nil => simp [next?, bringForward, forward] at taken
  | cons task rest =>
      rw [forward] at order
      cases task with
      | resume work =>
          simp only [next?, bringForward, forward, Option.some.injEq, Prod.mk.injEq] at taken
          obtain ⟨rfl, rfl⟩ := taken
          exact .ends (.resume work) rest order (fun _ _ same => by cases same)
      | start delay work =>
          by_cases empty : delay.isZero = true
          · simp only [next?, bringForward, forward, empty, ↓reduceIte, Option.some.injEq,
              Prod.mk.injEq] at taken
            obtain ⟨rfl, rfl⟩ := taken
            exact .ends (.start delay work) rest order (fun _ _ same => by cases same; exact empty)
          · simp only [next?, bringForward, forward, empty, Option.some.injEq,
              Prod.mk.injEq, Bool.false_eq_true, ↓reduceIte] at taken
            obtain ⟨rfl, rfl⟩ := taken
            exact .begins delay work rest order (by simpa using empty)

theorem works_eq (agenda : Agenda Work) : agenda.works = agenda.endings.map Prod.fst := by
  have same (task : Task Work) : (task.ending agenda.now).1 = task.work := by cases task <;> rfl
  simp [works, endings, Function.comp_def, same]

theorem endings_spawn (agenda : Agenda Work) (delay : Span) (work : Work) :
    (agenda.spawn delay work).endings.Perm ((work, agenda.deadline delay) :: agenda.endings) := by
  simp [endings, spawn, Task.ending, deadline]

theorem works_spawn (agenda : Agenda Work) (delay : Span) (work : Work) :
    (agenda.spawn delay work).works.Perm (work :: agenda.works) := by
  simpa [works_eq] using (endings_spawn agenda delay work).map Prod.fst

theorem foldl_spawn {Piece : Type} (delay : Piece → Span) (work : Piece → Work)
    (pieces : List Piece) (agenda : Agenda Work) :
    pieces.foldl (fun agenda piece => agenda.spawn (delay piece) (work piece)) agenda =
      { agenda with
        ready := agenda.ready ++ pieces.map fun piece => .start (delay piece) (work piece) } := by
  induction pieces generalizing agenda with
  | nil => simp
  | cons piece rest ih =>
      rw [List.foldl_cons, ih]
      simp [spawn]

theorem works_advance (agenda : Agenda Work) (moment : Nat) :
    (agenda.advance moment).works.Perm agenda.works := by
  have split := (List.filter_append_perm (fun wait : Wait Work => decide (wait.deadline ≤ moment))
    agenda.waiting).map Wait.work
  have later : agenda.waiting.filter (fun wait => decide (moment < wait.deadline)) =
      agenda.waiting.filter (fun wait => !decide (wait.deadline ≤ moment)) := by
    apply List.filter_congr
    intro wait _
    by_cases past : wait.deadline ≤ moment
    · simp [past, Nat.not_lt.mpr past]
    · simp [past, Nat.not_le.mp past]
  simp only [works, advance, List.map_append, List.map_map, List.append_assoc, later]
  apply List.Perm.append_left
  simpa [Function.comp_def, Task.work] using split

/-- While time passes, work may have to wait for longer but never for less. Once it has begun to wait
it waits for no longer than until its deadline or that moment. -/
theorem endings_advance {agenda : Agenda Work} {moment later : Nat} {work : Work}
    (forward : agenda.now ≤ moment) (member : (work, later) ∈ (agenda.advance moment).endings) :
    ∃ earlier, (work, earlier) ∈ agenda.endings ∧ earlier ≤ later ∧
      (agenda.AllBegun → later = max earlier moment) := by
  simp only [endings, advance, List.map_append, List.map_map, List.append_assoc, List.mem_append,
    List.mem_map, List.mem_filter, Function.comp_apply, decide_eq_true_eq] at member ⊢
  -- The work was ready before, its wait is over now, or it goes on waiting.
  rcases member with ⟨task, ready, same⟩ | ⟨wait, ⟨waiting, past⟩, same⟩ | ⟨wait, ⟨waiting, ahead⟩, same⟩
  · cases task with
    | start delay work =>
        obtain ⟨rfl, rfl⟩ := Prod.mk.inj same
        refine ⟨_, .inl ⟨_, ready, rfl⟩, by omega, fun begun => ?_⟩
        cases begun _ ready
    | resume work =>
        obtain ⟨rfl, rfl⟩ := Prod.mk.inj same
        exact ⟨_, .inl ⟨_, ready, rfl⟩, forward, fun _ => (Nat.max_eq_right forward).symm⟩
  · obtain ⟨rfl, rfl⟩ := Prod.mk.inj same
    exact ⟨wait.deadline, .inr ⟨wait, waiting, rfl⟩, past, fun _ => by omega⟩
  · obtain ⟨rfl, rfl⟩ := Prod.mk.inj same
    exact ⟨wait.deadline, .inr ⟨wait, waiting, rfl⟩, Nat.le_refl _, fun _ => by omega⟩

theorem TakesUp.endings {agenda after : Agenda Work} {outcome : Option Work}
    (taken : TakesUp agenda after outcome) :
    agenda.endings.Perm (outcome.toList.map (·, agenda.now) ++ after.endings) := by
  cases taken with
  | begins delay work rest chosen _ =>
      have ready := (chosen.map (Task.ending agenda.now)).append_right
        (agenda.waiting.map fun wait => (wait.work, wait.deadline))
      simp only [Agenda.endings, List.map_append, List.map_cons, List.map_nil, Option.toList_none,
        List.nil_append]
      refine ready.trans ?_
      simp only [List.map_cons, Task.ending, List.cons_append]
      rw [← List.append_assoc]
      exact (List.perm_append_singleton (work, agenda.deadline delay) _).symm
  | ends task rest chosen due =>
      have ready := (chosen.map (Task.ending agenda.now)).append_right
        (agenda.waiting.map fun wait => (wait.work, wait.deadline))
      have ending : task.ending agenda.now = (task.work, agenda.now) := by
        cases task with
        | start delay work => simp [Task.ending, Task.work,
            Span.coveringMillis_of_isZero (due delay work rfl)]
        | resume work => rfl
      simpa [Agenda.endings, ending] using ready

theorem TakesUp.works {agenda after : Agenda Work} {outcome : Option Work}
    (taken : TakesUp agenda after outcome) :
    agenda.works.Perm (outcome.toList ++ after.works) := by
  have both := taken.endings.map Prod.fst
  simpa [works_eq, Function.comp_def] using both

theorem TakesUp.now {agenda after : Agenda Work} {outcome : Option Work}
    (taken : TakesUp agenda after outcome) : after.now = agenda.now := by
  cases taken <;> rfl

end Agenda

end Toasts

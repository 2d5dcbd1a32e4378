import Toasts.Engine.Step
import Toasts.Failure
import Toasts.Proofs.Agenda

/-!
Runs of an engine. A run is a sequence of strides, each set off by an event: the caller starts an
operation or hands back the turn, the engine does its next step, a ready task is taken up, or time
passes. The caller may start an operation whenever it has the turn, so also from within a listener or
a callback, to any depth. Ready tasks are taken up in any order, and a wait may be found to be over
long after its deadline.
-/

namespace Toasts

def Frame.isWork : Frame → Bool
  | .caller _ => false
  | .returned _ => false
  | _ => true

/-- Whether a frame is an affair of the caller alone: code that neither a listener nor a callback of
a toast is part of, or an answer that waits to be taken. -/
def Frame.isOutside : Frame → Bool
  | .caller (.clicked _) => true
  | .caller (.errand _) => true
  | .returned _ => true
  | _ => false

def Frame.call? : Frame → Option Call
  | .caller call => some call
  | _ => none

theorem Frame.call?_of_isWork {frame : Frame} (work : frame.isWork = true) :
    frame.call? = none := by
  cases frame <;> first | rfl | cases work

inductive Event where
  /-- The caller starts an operation. -/
  | request (operation : Operation)
  /-- The engine does its next step. -/
  | proceed
  /-- The caller is done with a call, or takes an answer. -/
  | handBack
  /-- The task at this place among those that are ready is taken up. -/
  | poll (place : Nat)
  /-- Time passes up to this moment. -/
  | pass (moment : Nat)

def Operation.isWrite : Operation → Bool
  | .write _ => true
  | _ => false

def Event.isRequest : Event → Bool
  | .request _ => true
  | _ => false

def Event.isPass : Event → Bool
  | .pass _ => true
  | _ => false

/-- Whether an event keeps to what the engine offers: nobody writes to the store past it. -/
def Event.isManaged : Event → Bool
  | .request operation => !operation.isWrite
  | _ => true

namespace Engine

def fresh (settings : Settings) (defaults : Defaults) (now : Nat) : Engine :=
  { settings, defaults, agenda := { now } }

theorem start_eq_fresh (settings : Settings) (now : Nat) :
    start settings (some now) = .ok (fresh settings {} now) := rfl

def isCallersTurn (engine : Engine) : Bool :=
  match engine.frames with
  | [] => true
  | .caller _ :: _ => true
  | _ => false

/-- No operation, listener or callback is under way. -/
def AtRest (engine : Engine) : Prop := ∀ frame ∈ engine.frames, frame.isOutside = true

instance (engine : Engine) : Decidable engine.AtRest :=
  inferInstanceAs (Decidable (∀ frame ∈ engine.frames, frame.isOutside = true))

def underWay (engine : Engine) : List Call := engine.frames.filterMap Frame.call?

/-- The call that a stride begins: it is on top afterwards, and not because something above it has
gone. -/
def begun? (engine after : Engine) : Option Call :=
  if engine.frames.length ≤ after.frames.length then after.frames.head?.bind Frame.call? else none

def handsBack? (engine : Engine) : Event → Option Call
  | .handBack => engine.frames.head?.bind Frame.call?
  | _ => none

theorem begun?_of_head {engine after : Engine}
    (silent : after.frames.head?.bind Frame.call? = none) : engine.begun? after = none := by
  simp [begun?, silent]

/-- Where at most one frame gives way to others, the call that begins is the first of these. -/
theorem begun?_of_frames {engine after : Engine} (popped pushed below : List Frame)
    (before : engine.frames = popped ++ below) (frames : after.frames = pushed ++ below)
    (single : popped.length ≤ 1) (moved : popped ++ pushed = [] → below = []) :
    engine.begun? after = pushed.head?.bind Frame.call? := by
  cases pushed with
  | cons frame pushed =>
      have grown : engine.frames.length ≤ after.frames.length := by
        simp only [before, frames, List.length_append, List.length_cons]
        omega
      rw [begun?, if_pos grown, frames]
      rfl
  | nil =>
      cases popped with
      | nil =>
          have nothing := moved rfl
          simp [begun?, frames, nothing]
      | cons frame popped =>
          have shrunk : ¬ engine.frames.length ≤ after.frames.length := by
            simp only [before, frames, List.length_append, List.length_cons, List.length_nil]
            omega
          simp [begun?, shrunk]

def pollAt? (engine : Engine) (place : Nat) : Option Engine :=
  { engine with agenda := engine.agenda.bringForward place }.poll?

theorem pollAt?_zero (engine : Engine) : engine.pollAt? 0 = engine.poll? := by
  simp [pollAt?]

theorem resumeTurn_pops {engine : Engine} {frame : Frame} {rest : List Frame}
    (top : engine.frames = frame :: rest) (idle : frame.isWork = false) :
    engine.resumeTurn = { engine with frames := rest } := by
  cases frame <;> simp [resumeTurn, top] <;> simp [Frame.isWork] at idle

inductive Stride (engine : Engine) : Event → Engine → Prop where
  | request (operation : Operation) (turn : engine.isCallersTurn = true) :
      Stride engine (.request operation) (engine.request operation)
  | proceed (frame : Frame) (rest : List Frame) (top : engine.frames = frame :: rest)
      (work : frame.isWork = true) : Stride engine .proceed engine.step
  | handBack (frame : Frame) (rest : List Frame) (top : engine.frames = frame :: rest)
      (idle : frame.isWork = false) : Stride engine .handBack engine.resumeTurn
  | poll (place : Nat) (after : Engine) (idle : engine.frames = [])
      (taken : engine.pollAt? place = some after) : Stride engine (.poll place) after
  | pass (moment : Nat) (idle : engine.frames = []) (later : engine.now ≤ moment) :
      Stride engine (.pass moment) (engine.advance moment)

def follow? (engine : Engine) : Event → Option Engine
  | .request operation => if engine.isCallersTurn then some (engine.request operation) else none
  | .proceed => if engine.frames.head?.any Frame.isWork then some engine.step else none
  | .handBack => if engine.frames.head?.any (!·.isWork) then some engine.resumeTurn else none
  | .poll place => if engine.frames.isEmpty then engine.pollAt? place else none
  | .pass moment =>
      if engine.frames.isEmpty ∧ engine.now ≤ moment then some (engine.advance moment) else none

theorem follow?_stride {engine after : Engine} {event : Event}
    (followed : engine.follow? event = some after) : Stride engine event after := by
  cases event with
  | request operation =>
      obtain ⟨turn, rfl⟩ := by simpa [follow?] using followed
      exact .request operation turn
  | proceed =>
      obtain ⟨found, rfl⟩ := by simpa [follow?] using followed
      cases top : engine.frames with
      | nil => simp [top] at found
      | cons frame rest => exact .proceed frame rest top (by simpa [top] using found)
  | handBack =>
      obtain ⟨found, rfl⟩ := by simpa [follow?] using followed
      cases top : engine.frames with
      | nil => simp [top] at found
      | cons frame rest => exact .handBack frame rest top (by simpa [top] using found)
  | poll place =>
      obtain ⟨idle, taken⟩ := by simpa [follow?] using followed
      exact .poll place after idle taken
  | pass moment =>
      obtain ⟨⟨idle, later⟩, rfl⟩ := by simpa [follow?] using followed
      exact .pass moment idle later

inductive Run (start : Engine) : Engine → Type where
  | start : Run start start
  | next {engine after : Engine} (run : Run start engine) (event : Event)
      (stride : Stride engine event after) : Run start after

namespace Run

variable {start finish : Engine}

def extend? {finish : Engine} (run : Run start finish) :
    List Event → Option (Σ finish, Run start finish)
  | [] => some ⟨finish, run⟩
  | event :: rest =>
      match followed : finish.follow? event with
      | none => none
      | some _ => (run.next event (follow?_stride followed)).extend? rest

/-- Every event of a run is of one sort, given the engine it meets. -/
def All (sort : Engine → Event → Prop) {finish : Engine} : Run start finish → Prop
  | .start => True
  | @Run.next _ engine _ run event _ => run.All sort ∧ sort engine event

instance All.decidable {sort : Engine → Event → Prop} [∀ engine event, Decidable (sort engine event)] :
    {finish : Engine} → (run : Run start finish) → Decidable (run.All sort)
  | _, .start => .isTrue trivial
  | _, @Run.next _ engine _ run event _ =>
      have := (All.decidable run : Decidable (run.All sort))
      inferInstanceAs (Decidable (run.All sort ∧ sort engine event))

/-- A run in which nobody writes to the store past the engine. -/
def Managed (run : Run start finish) : Prop := run.All fun _ event => event.isManaged = true

/-- A run in which listeners and callbacks of toasts ask for nothing. -/
def Passive (run : Run start finish) : Prop :=
  run.All fun engine event => event.isManaged = true ∧
    (event.isRequest = true → engine.AtRest)

instance (run : Run start finish) : Decidable run.Managed :=
  inferInstanceAs (Decidable (run.All _))

instance (run : Run start finish) : Decidable run.Passive :=
  inferInstanceAs (Decidable (run.All _))

theorem All.mono {sort other : Engine → Event → Prop} {run : Run start finish}
    (every : run.All sort) (weaker : ∀ engine event, sort engine event → other engine event) :
    run.All other := by
  induction run with
  | start => trivial
  | next run event _ ih => exact ⟨ih every.1, weaker _ event every.2⟩

theorem Passive.managed {run : Run start finish} (passive : run.Passive) : run.Managed :=
  All.mono passive fun _ _ both => both.1

theorem invariant {sort : Engine → Event → Prop} {kept : Engine → Prop} (holds : kept start)
    (keeps : ∀ {engine after event}, Stride engine event after → sort engine event →
      kept engine → kept after)
    (run : Run start finish) (every : run.All sort) : kept finish := by
  induction run with
  | start => exact holds
  | next run event stride ih => exact keeps stride every.2 (ih every.1)

end Run

end Engine

end Toasts

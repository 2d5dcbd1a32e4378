import Toasts.Proofs.Agenda
import Toasts.Proofs.Countdowns
import Toasts.Timekeeper

/-!
Runs of a timekeeper. The caller may use the countdowns while nothing is under way, or while an
action is running, and so to any depth. An action is known by the number of the call that registered
it. What is still to be started is held in two places: by the countdowns, and by the batches of
resumptions under way.
-/

namespace Toasts

inductive TimeEvent (Key : Type) where
  | schedule (key : Key) (delay : Span)
  | cancel (key : Key)
  | cancelAll
  | pause
  | resume
  /-- The timekeeper does its next step. -/
  | proceed
  /-- The caller is done with an action, or takes note that a resumption is done. -/
  | handBack
  /-- The task at this place among those that are ready is taken up. -/
  | poll (place : Nat)
  /-- Time passes up to this moment. -/
  | pass (moment : Nat)

/-- How many frames an event takes off, before it may put others in their place. -/
@[simp] def TimeEvent.takes {Key : Type} : TimeEvent Key → Nat
  | .proceed => 1
  | .handBack => 1
  | _ => 0

@[simp] def TimeFrame.action? {Key Action : Type} : TimeFrame Key Action → Option (Countdown Key Action)
  | .action countdown => some countdown
  | _ => none

structure Roll (Key : Type) where
  keeper : Timekeeper Key Nat := {}
  registered : Nat := 0

namespace Roll

variable {Key : Type} [DecidableEq Key]

def fresh (Key : Type) (now : Nat) : Roll Key := { keeper := { agenda := { now } } }

def isCallersTurn (roll : Roll Key) : Bool :=
  match roll.keeper.frames with
  | [] => true
  | .action _ :: _ => true
  | _ => false

def follow? (roll : Roll Key) : TimeEvent Key → Option (Roll Key)
  | .schedule key delay =>
      let number := roll.registered + 1
      if roll.isCallersTurn then some ⟨roll.keeper.schedule key delay number, number⟩ else none
  | .cancel key =>
      if roll.isCallersTurn then some { roll with keeper := roll.keeper.cancel key } else none
  | .cancelAll =>
      if roll.isCallersTurn then some { roll with keeper := roll.keeper.cancelAll } else none
  | .pause => if roll.isCallersTurn then some { roll with keeper := roll.keeper.pause } else none
  | .resume => if roll.isCallersTurn then some { roll with keeper := roll.keeper.resume } else none
  | .proceed =>
      match roll.keeper.frames with
      | .due _ :: _ => some { roll with keeper := roll.keeper.step }
      | _ => none
  | .handBack =>
      match roll.keeper.frames with
      | .action _ :: _ => some { roll with keeper := roll.keeper.handBack }
      | .resumed :: _ => some { roll with keeper := roll.keeper.handBack }
      | _ => none
  | .poll place =>
      if roll.keeper.frames.isEmpty then
        { roll.keeper with agenda := roll.keeper.agenda.bringForward place }.poll?.map fun keeper =>
          { roll with keeper }
      else none
  | .pass moment =>
      if roll.keeper.frames.isEmpty ∧ roll.keeper.now ≤ moment then
        some { roll with keeper := roll.keeper.advance moment }
      else none

inductive Run (start : Roll Key) : Roll Key → Type where
  | start : Run start start
  | next {roll after : Roll Key} (run : Run start roll) (event : TimeEvent Key)
      (followed : roll.follow? event = some after) : Run start after

/-- The countdown whose action an event starts: the action is on top afterwards, and it is the event
that has put it there. -/
def starts? (roll : Roll Key) (event : TimeEvent Key) (after : Roll Key) :
    Option (Countdown Key Nat) :=
  if roll.keeper.frames.length < after.keeper.frames.length + event.takes then
    after.keeper.frames.head?.bind TimeFrame.action?
  else none

def ends? (roll : Roll Key) : TimeEvent Key → Option (Countdown Key Nat)
  | .handBack => roll.keeper.frames.head?.bind TimeFrame.action?
  | _ => none

def underWay (roll : Roll Key) : List (Countdown Key Nat) :=
  roll.keeper.frames.filterMap TimeFrame.action?

namespace Run

variable {start finish : Roll Key}

def started {finish : Roll Key} : Run start finish → List (Countdown Key Nat)
  | .start => []
  | @Run.next _ _ _ roll after run event _ => run.started ++ (roll.starts? event after).toList

def ended {finish : Roll Key} : Run start finish → List (Countdown Key Nat)
  | .start => []
  | @Run.next _ _ _ roll _ run event _ => run.ended ++ (roll.ends? event).toList

def extend? {finish : Roll Key} (run : Run start finish) :
    List (TimeEvent Key) → Option (Σ finish, Run start finish)
  | [] => some ⟨finish, run⟩
  | event :: rest =>
      match followed : finish.follow? event with
      | none => none
      | some _ => (run.next event followed).extend? rest

end Run

end Roll

def TimeFrame.batch {Key Action : Type} : TimeFrame Key Action → List (Countdown Key Action)
  | .due batch => batch
  | _ => []

def Countdown.pledge {Key : Type} (countdown : Countdown Key Nat) : Key × Nat :=
  (countdown.key, countdown.action)

theorem pause_pledges (countdowns : Countdowns Key Nat) (now : Nat) :
    (countdowns.pause now).entries.map Countdown.pledge =
      countdowns.entries.map Countdown.pledge := by
  simp only [Countdowns.pause]
  split
  · rfl
  · simp [Function.comp_def, Countdown.pledge]

theorem resume_pledges (countdowns : Countdowns Key Nat) (now : Nat) :
    (countdowns.resume now).countdowns.entries.map Countdown.pledge ⊆
      countdowns.entries.map Countdown.pledge := by
  simp only [Countdowns.resume]
  split
  · rw [Countdowns.restart_map Countdown.pledge fun _ _ _ => rfl]
    exact (List.filter_sublist.map _).subset
  · exact List.Subset.refl _

namespace Roll

variable {Key : Type} {roll after : Roll Key} {event : TimeEvent Key}

theorem starts?_of_head (silent : after.keeper.frames.head?.bind TimeFrame.action? = none) :
    roll.starts? event after = none := by
  simp [starts?, silent]

theorem starts?_of_still (frames : after.keeper.frames = roll.keeper.frames)
    (still : event.takes = 0) : roll.starts? event after = none := by
  rw [starts?, frames, still]
  exact if_neg (Nat.lt_irrefl _)

theorem starts?_pushed {countdown : Countdown Key Nat} {rest : List (TimeFrame Key Nat)}
    (frames : after.keeper.frames = .action countdown :: rest)
    (grown : roll.keeper.frames.length ≤ rest.length + event.takes) :
    roll.starts? event after = some countdown := by
  have put : roll.keeper.frames.length < after.keeper.frames.length + event.takes := by
    rw [frames, List.length_cons]
    omega
  rw [starts?, if_pos put, frames]
  rfl

/-- The actions that are still to be started, each with the key it is registered under. -/
def held (roll : Roll Key) : List (Key × Nat) :=
  roll.keeper.countdowns.entries.map Countdown.pledge ++
    roll.keeper.frames.flatMap fun frame => frame.batch.map Countdown.pledge

theorem entries_held (roll : Roll Key) :
    roll.keeper.countdowns.entries.map Countdown.pledge ⊆ roll.held :=
  List.subset_append_left _ _

theorem batch_held {frame : TimeFrame Key Nat} (member : frame ∈ roll.keeper.frames) :
    frame.batch.map Countdown.pledge ⊆ roll.held := fun _ listed =>
  List.mem_append_right _ (List.mem_flatMap.mpr ⟨frame, member, listed⟩)

theorem held_subset {held : List (Key × Nat)}
    (entries : roll.keeper.countdowns.entries.map Countdown.pledge ⊆ held)
    (batches : ∀ frame ∈ roll.keeper.frames, frame.batch.map Countdown.pledge ⊆ held) :
    roll.held ⊆ held := by
  intro pledge member
  rcases List.mem_append.mp member with entry | due
  · exact entries entry
  · obtain ⟨frame, among, listed⟩ := List.mem_flatMap.mp due
    exact batches frame among listed

variable [DecidableEq Key]

theorem poll?_some {keeper later : Timekeeper Key Nat} {place : Nat}
    (taken : { keeper with agenda := keeper.agenda.bringForward place }.poll? = some later) :
    (∃ agenda, later = { keeper with agenda }) ∨
      ∃ agenda key generation countdowns countdown,
        keeper.countdowns.expire? key generation = some (countdowns, countdown) ∧
        later = { keeper with agenda, countdowns, frames := .action countdown :: keeper.frames } := by
  simp only [Timekeeper.poll?] at taken
  split at taken
  next => cases taken
  next agenda next => exact .inl ⟨agenda, (Option.some.inj taken).symm⟩
  next agenda key generation next =>
      split at taken
      next countdowns countdown expired =>
          exact .inr ⟨agenda, key, generation, countdowns, countdown, expired,
            (Option.some.inj taken).symm⟩
      next => exact .inl ⟨agenda, (Option.some.inj taken).symm⟩

inductive Change (roll : Roll Key) : TimeEvent Key → Roll Key → Prop where
  | schedule (key : Key) (delay : Span) :
      Change roll (.schedule key delay)
        ⟨roll.keeper.schedule key delay (roll.registered + 1), roll.registered + 1⟩
  | cancel (key : Key) : Change roll (.cancel key) { roll with keeper := roll.keeper.cancel key }
  | cancelAll : Change roll .cancelAll { roll with keeper := roll.keeper.cancelAll }
  | pause : Change roll .pause { roll with keeper := roll.keeper.pause }
  | resume : Change roll .resume { roll with keeper := roll.keeper.resume }
  | done (rest : List (TimeFrame Key Nat)) (top : roll.keeper.frames = .due [] :: rest) :
      Change roll .proceed { roll with keeper := { roll.keeper with frames := rest } }
  | hands (countdown : Countdown Key Nat) (batch : List (Countdown Key Nat))
      (rest : List (TimeFrame Key Nat)) (top : roll.keeper.frames = .due (countdown :: batch) :: rest) :
      Change roll .proceed { roll with
        keeper := { roll.keeper with frames := .action countdown :: .due batch :: rest } }
  | handBack (frame : TimeFrame Key Nat) (rest : List (TimeFrame Key Nat))
      (top : roll.keeper.frames = frame :: rest) (idle : frame.batch = []) :
      Change roll .handBack { roll with keeper := { roll.keeper with frames := rest } }
  | waits (place : Nat) (agenda : Agenda (Key × Nat)) (idle : roll.keeper.frames = []) :
      Change roll (.poll place) { roll with keeper := { roll.keeper with agenda } }
  | fires (place : Nat) (agenda : Agenda (Key × Nat)) (key : Key) (generation : Nat)
      (countdowns : Countdowns Key Nat) (countdown : Countdown Key Nat)
      (idle : roll.keeper.frames = [])
      (expired : roll.keeper.countdowns.expire? key generation = some (countdowns, countdown)) :
      Change roll (.poll place) { roll with
        keeper := { countdowns, agenda, frames := [.action countdown] } }
  | pass (moment : Nat) (idle : roll.keeper.frames = []) :
      Change roll (.pass moment) { roll with keeper := roll.keeper.advance moment }

theorem follow?_change (followed : roll.follow? event = some after) : Change roll event after := by
  cases event with
  | schedule key delay =>
      obtain ⟨_, rfl⟩ := by simpa [follow?] using followed
      exact .schedule key delay
  | cancel key =>
      obtain ⟨_, rfl⟩ := by simpa [follow?] using followed
      exact .cancel key
  | cancelAll =>
      obtain ⟨_, rfl⟩ := by simpa [follow?] using followed
      exact .cancelAll
  | pause =>
      obtain ⟨_, rfl⟩ := by simpa [follow?] using followed
      exact .pause
  | resume =>
      obtain ⟨_, rfl⟩ := by simpa [follow?] using followed
      exact .resume
  | proceed =>
      simp only [follow?] at followed
      split at followed
      next batch rest top =>
          obtain rfl := Option.some.inj followed
          cases batch with
          | nil => simpa [Timekeeper.step, top] using Change.done rest top
          | cons countdown batch =>
              simpa [Timekeeper.step, top] using Change.hands countdown batch rest top
      next => cases followed
  | handBack =>
      simp only [follow?] at followed
      split at followed
      next countdown rest top =>
          obtain rfl := Option.some.inj followed
          simpa [Timekeeper.handBack, top] using Change.handBack (.action countdown) rest top rfl
      next rest top =>
          obtain rfl := Option.some.inj followed
          simpa [Timekeeper.handBack, top] using Change.handBack .resumed rest top rfl
      next => cases followed
  | poll place =>
      obtain ⟨idle, keeper, taken, rfl⟩ := by simpa [follow?] using followed
      rcases poll?_some taken with
        ⟨agenda, rfl⟩ | ⟨agenda, key, generation, countdowns, countdown, expired, rfl⟩
      · exact .waits place agenda idle
      · rw [idle]
        exact .fires place agenda key generation countdowns countdown idle expired
  | pass moment =>
      obtain ⟨⟨idle, _⟩, rfl⟩ := by simpa [follow?] using followed
      exact .pass moment idle

theorem Change.held (change : Change roll event after) :
    ∀ pledge ∈ after.held, pledge ∈ roll.held ∨
      (pledge.2 = roll.registered + 1 ∧ after.registered = roll.registered + 1) := by
  have same : ∀ frame ∈ roll.keeper.frames, frame.batch.map Countdown.pledge ⊆ roll.held :=
    fun _ => batch_held
  have below {frame : TimeFrame Key Nat} {rest : List (TimeFrame Key Nat)}
      (top : roll.keeper.frames = frame :: rest) :
      ∀ frame ∈ rest, frame.batch.map Countdown.pledge ⊆ roll.held :=
    fun _ member => batch_held (top ▸ List.mem_cons_of_mem _ member)
  have kept (fewer : after.held ⊆ roll.held) :
      ∀ pledge ∈ after.held, pledge ∈ roll.held ∨
        (pledge.2 = roll.registered + 1 ∧ after.registered = roll.registered + 1) :=
    fun _ member => .inl (fewer member)
  cases change with
  | schedule key delay =>
      -- Only a countdown with a delay is added to what is held.
      cases lasting : delay.isZero with
      | true =>
          refine kept (held_subset ?_ same)
          simpa [Timekeeper.schedule, Timekeeper.keepVigils, Countdowns.schedule, lasting] using
            entries_held roll
      | false =>
          intro pledge member
          rcases List.mem_append.mp member with entry | due
          · simp only [Timekeeper.schedule, Timekeeper.keepVigils, Countdowns.schedule, lasting,
              Bool.false_eq_true, if_false, List.map_append, List.mem_append, List.map_cons,
              List.map_nil, List.mem_singleton] at entry
            rcases entry with old | rfl
            · exact .inl (entries_held roll ((List.filter_sublist.map _).subset old))
            · exact .inr ⟨rfl, rfl⟩
          · exact .inl (List.mem_append_right _ due)
  | cancel key =>
      refine kept (held_subset (fun pledge member => ?_) same)
      exact entries_held roll ((List.filter_sublist.map _).subset member)
  | cancelAll => exact kept (held_subset (List.nil_subset _) same)
  | pause =>
      refine kept (held_subset ?_ same)
      rw [Timekeeper.pause, pause_pledges]
      exact entries_held roll
  | resume =>
      refine kept (held_subset ?_ fun frame member => ?_)
      · exact List.Subset.trans (resume_pledges _ _) (entries_held roll)
      · simp only [Timekeeper.resume, Timekeeper.keepVigils, List.mem_cons] at member
        rcases member with rfl | rfl | old
        · intro pledge listed
          obtain ⟨countdown, due, rfl⟩ := List.mem_map.mp listed
          exact entries_held roll (List.mem_map_of_mem (Countdowns.of_mem_due due).2.1)
        · exact List.nil_subset _
        · exact batch_held old
  | done rest top => exact kept (held_subset (entries_held roll) (below top))
  | hands countdown batch rest top =>
      refine kept (held_subset (entries_held roll) fun frame member => ?_)
      rcases List.mem_cons.mp member with rfl | member
      · exact List.nil_subset _
      · rcases List.mem_cons.mp member with rfl | old
        · have first : TimeFrame.due (countdown :: batch) ∈ roll.keeper.frames := by simp [top]
          exact List.Subset.trans (List.subset_cons_self _ _) (batch_held first)
        · exact below top frame old
  | handBack frame rest top idle => exact kept (held_subset (entries_held roll) (below top))
  | waits place agenda idle => exact kept (held_subset (entries_held roll) same)
  | fires place agenda key generation countdowns countdown idle expired =>
      obtain ⟨_, _, _, rfl⟩ := Countdowns.expire?_some expired
      refine kept (held_subset (fun pledge member => ?_) fun frame member => ?_)
      · exact entries_held roll ((List.filter_sublist.map _).subset member)
      · rw [List.mem_singleton.mp member]
        exact List.nil_subset _
  | pass moment idle => exact kept (held_subset (entries_held roll) same)

theorem Change.started {countdown : Countdown Key Nat} (change : Change roll event after)
    (started : roll.starts? event after = some countdown) :
    (event = .proceed ∧ ∃ batch rest, roll.keeper.frames = .due (countdown :: batch) :: rest) ∨
      ∃ place key generation countdowns, event = .poll place ∧
        roll.keeper.countdowns.expire? key generation = some (countdowns, countdown) := by
  cases change with
  | hands first batch rest top =>
      obtain rfl : first = countdown := by simpa [starts?, top] using started
      exact .inl ⟨rfl, batch, rest, top⟩
  | fires place agenda key generation countdowns held idle expired =>
      obtain rfl : held = countdown := by simpa [starts?, idle] using started
      exact .inr ⟨place, key, generation, countdowns, rfl, expired⟩
  | resume => simp [starts?, Timekeeper.resume, Timekeeper.keepVigils] at started
  | done rest top => simp [starts?, top] at started
  | handBack frame rest top idle => simp [starts?, top] at started
  | _ => cases (starts?_of_still rfl rfl).symm.trans started

theorem Change.started_held {countdown : Countdown Key Nat} (change : Change roll event after)
    (started : roll.starts? event after = some countdown) : countdown.pledge ∈ roll.held := by
  rcases change.started started with
    ⟨_, batch, rest, top⟩ | ⟨place, key, generation, countdowns, _, expired⟩
  · have member : TimeFrame.due (countdown :: batch) ∈ roll.keeper.frames := by simp [top]
    exact batch_held member List.mem_cons_self
  · obtain ⟨found, _⟩ := Countdowns.expire?_some expired
    exact entries_held roll (List.mem_map_of_mem (Countdowns.mem_of_get? found))

/-- What is under way after an event has been started by it, or was under way before and has not been
handed back. -/
theorem Change.actions (change : Change roll event after) :
    (roll.ends? event).toList ++ after.underWay =
      (roll.starts? event after).toList ++ roll.underWay := by
  cases change with
  | hands first batch rest top => simp [starts?, ends?, underWay, top, List.filterMap_cons]
  | fires place agenda key generation countdowns held idle expired =>
      simp [starts?, ends?, underWay, idle]
  | resume =>
      simp [starts?, ends?, underWay, Timekeeper.resume, Timekeeper.keepVigils, List.filterMap_cons]
  | done rest top => simp [starts?, ends?, underWay, top, List.filterMap_cons]
  | handBack frame rest top idle =>
      cases frame <;> simp [starts?, ends?, underWay, top, List.filterMap_cons]
  | _ => simp [starts?, ends?, underWay, Timekeeper.schedule, Timekeeper.keepVigils,
      Timekeeper.cancel, Timekeeper.cancelAll, Timekeeper.pause, Timekeeper.advance]

theorem Change.registered_le (change : Change roll event after) :
    roll.registered ≤ after.registered := by
  cases change <;> first | exact Nat.le_succ _ | exact Nat.le_refl _

end Roll

end Toasts

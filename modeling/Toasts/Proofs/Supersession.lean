import Toasts.Proofs.Roll

/-!
Superseded countdowns. Once a key's countdown has been dropped or replaced, the action registered
for it before is never started, by whatever the caller and the clock do next, unless it lies in a
batch that a resumption has taken out of the countdowns already: such a batch is worked off without
looking back.
-/

namespace Toasts

/-- Whether a call drops or replaces the countdown of a key. -/
def TimeEvent.supersedes {Key : Type} [DecidableEq Key] (key : Key) : TimeEvent Key → Bool
  | .schedule other delay => decide (other = key) && !delay.isZero
  | .cancel other => decide (other = key)
  | .cancelAll => true
  | _ => false

namespace Roll

variable {Key : Type}

def Awaits (roll : Roll Key) (key : Key) : Prop :=
  ∃ frame ∈ roll.keeper.frames, ∃ countdown ∈ frame.batch, countdown.key = key

instance [DecidableEq Key] (roll : Roll Key) (key : Key) : Decidable (roll.Awaits key) :=
  inferInstanceAs
    (Decidable (∃ frame ∈ roll.keeper.frames, ∃ countdown ∈ frame.batch, countdown.key = key))

/-- No action that is held under this key has a number up to this one. -/
def Fresh (roll : Roll Key) (key : Key) (number : Nat) : Prop :=
  number ≤ roll.registered ∧ ∀ pledge ∈ roll.held, pledge.1 = key → number < pledge.2

variable [DecidableEq Key] {roll after : Roll Key} {event : TimeEvent Key} {key : Key} {number : Nat}

theorem Change.fresh (change : Change roll event after) (fresh : roll.Fresh key number) :
    after.Fresh key number := by
  obtain ⟨bound, beyond⟩ := fresh
  refine ⟨Nat.le_trans bound change.registered_le, fun pledge member same => ?_⟩
  rcases change.held pledge member with old | ⟨new, _⟩
  · exact beyond pledge old same
  · omega

theorem Run.started_fresh {start finish : Roll Key} (run : Run start finish)
    (fresh : start.Fresh key number) : finish.Fresh key number ∧
      ∀ countdown ∈ run.started, countdown.key = key → number < countdown.action := by
  induction run with
  | start => exact ⟨fresh, by simp [started]⟩
  | next run event followed ih =>
      obtain ⟨kept, earlier⟩ := ih
      have change := follow?_change followed
      refine ⟨change.fresh kept, fun countdown member same => ?_⟩
      rcases List.mem_append.mp member with old | new
      · exact earlier countdown old same
      · have started := Option.mem_toList.mp new
        exact kept.2 countdown.pledge (change.started_held started) same

theorem Run.held_registered {now : Nat} {finish : Roll Key} (run : Run (fresh Key now) finish) :
    ∀ pledge ∈ finish.held, pledge.2 ≤ finish.registered := by
  induction run with
  | start => simp [held, Roll.fresh]
  | next run event followed ih =>
      have change := follow?_change followed
      intro pledge member
      rcases change.held pledge member with old | ⟨number, registered⟩
      · exact Nat.le_trans (ih pledge old) change.registered_le
      · omega

/-- A call that supersedes a key leaves no earlier action under it among the countdowns, and does not
touch the batches under way. -/
theorem Change.supersedes (change : Change roll event after) (call : event.supersedes key = true) :
    after.keeper.frames = roll.keeper.frames ∧
      ∀ countdown ∈ after.keeper.countdowns.entries, countdown.key = key →
        roll.registered < countdown.action := by
  cases change with
  | schedule other delay =>
      obtain ⟨rfl, lasting⟩ := by simpa [TimeEvent.supersedes] using call
      refine ⟨rfl, fun countdown member same => ?_⟩
      simp only [Timekeeper.schedule, Timekeeper.keepVigils, Countdowns.schedule, lasting,
        Bool.false_eq_true, if_false, List.mem_append, List.mem_singleton] at member
      rcases member with old | rfl
      · exact absurd same (of_decide_eq_true (List.mem_filter.mp old).2)
      · exact Nat.lt_succ_self _
  | cancel other =>
      obtain rfl : other = key := by simpa [TimeEvent.supersedes] using call
      refine ⟨rfl, fun countdown member same => ?_⟩
      exact absurd same (of_decide_eq_true (List.mem_filter.mp member).2)
  | cancelAll => exact ⟨rfl, fun countdown member => by cases member⟩
  | pause => simp [TimeEvent.supersedes] at call
  | resume => simp [TimeEvent.supersedes] at call
  | done rest top => simp [TimeEvent.supersedes] at call
  | hands countdown batch rest top => simp [TimeEvent.supersedes] at call
  | handBack frame rest top idle => simp [TimeEvent.supersedes] at call
  | waits place agenda idle => simp [TimeEvent.supersedes] at call
  | fires place agenda other generation countdowns countdown idle expired =>
      simp [TimeEvent.supersedes] at call
  | pass moment idle => simp [TimeEvent.supersedes] at call

theorem follow?_done {rest : List (TimeFrame Key Nat)} (top : roll.keeper.frames = .due [] :: rest) :
    roll.follow? .proceed =
      some { roll with keeper := { roll.keeper with frames := rest } } := by
  simp [follow?, top, Timekeeper.step]

theorem follow?_hands {countdown : Countdown Key Nat} {batch : List (Countdown Key Nat)}
    {rest : List (TimeFrame Key Nat)}
    (top : roll.keeper.frames = .due (countdown :: batch) :: rest) :
    roll.follow? .proceed = some { roll with
      keeper := { roll.keeper with frames := .action countdown :: .due batch :: rest } } := by
  simp [follow?, top, Timekeeper.step]

theorem follow?_action {countdown : Countdown Key Nat} {rest : List (TimeFrame Key Nat)}
    (top : roll.keeper.frames = .action countdown :: rest) : roll.follow? .handBack =
      some { roll with keeper := { roll.keeper with frames := rest } } := by
  simp [follow?, top, Timekeeper.handBack]

theorem follow?_resumed {rest : List (TimeFrame Key Nat)}
    (top : roll.keeper.frames = .resumed :: rest) : roll.follow? .handBack =
      some { roll with keeper := { roll.keeper with frames := rest } } := by
  simp [follow?, top, Timekeeper.handBack]

namespace Run

variable {start : Roll Key}

theorem hands_out (earlier : List (Countdown Key Nat)) {later : List (Countdown Key Nat)}
    {rest : List (TimeFrame Key Nat)} (run : Run start roll)
    (top : roll.keeper.frames = .due (earlier ++ later) :: rest) :
    ∃ (reached : Roll Key) (_ : Run start reached),
      reached.keeper.frames = .due later :: rest := by
  induction earlier generalizing roll with
  | nil => exact ⟨roll, run, top⟩
  | cons countdown earlier ih =>
      have handed := run.next .proceed (follow?_hands top)
      exact ih (handed.next .handBack (follow?_action rfl)) rfl

theorem unwinds (above : List (TimeFrame Key Nat)) {below : List (TimeFrame Key Nat)}
    (run : Run start roll) (frames : roll.keeper.frames = above ++ below) :
    ∃ (reached : Roll Key) (_ : Run start reached), reached.keeper.frames = below := by
  induction above generalizing roll with
  | nil => exact ⟨roll, run, frames⟩
  | cons frame above ih =>
      cases frame with
      | action countdown => exact ih (run.next .handBack (follow?_action frames)) rfl
      | resumed => exact ih (run.next .handBack (follow?_resumed frames)) rfl
      | due batch =>
          have whole : roll.keeper.frames = .due (batch ++ []) :: (above ++ below) := by
            simpa using frames
          obtain ⟨drained, more, top⟩ := hands_out batch run whole
          exact ih (more.next .proceed (follow?_done top)) rfl

/-- A countdown in a batch under way can be the next whose action is started. -/
theorem starts_awaited {countdown : Countdown Key Nat} {frame : TimeFrame Key Nat}
    (run : Run start roll) (member : frame ∈ roll.keeper.frames)
    (listed : countdown ∈ frame.batch) :
    ∃ (reached : Roll Key) (more : Run start reached), countdown ∈ more.started := by
  -- First all that lies above the batch is worked off, then the batch up to the countdown.
  obtain ⟨above, below, frames⟩ := List.append_of_mem member
  obtain ⟨bared, unwound, top⟩ := unwinds above run frames
  cases frame with
  | action other => cases listed
  | resumed => cases listed
  | due batch =>
      obtain ⟨earlier, later, rfl⟩ := List.append_of_mem listed
      obtain ⟨reached, handed, first⟩ := hands_out earlier unwound top
      refine ⟨_, handed.next .proceed (follow?_hands first), List.mem_append_right _ ?_⟩
      simp [starts?, first]

/-- After a call that drops or replaces the countdown of a key, no action that was registered under
the key before is ever started, whatever happens next, exactly when none of them is in a batch of a
resumption under way at the call. -/
theorem supersession_exact {now : Nat} (run : Run (fresh Key now) roll)
    (followed : roll.follow? event = some after) (call : event.supersedes key = true) :
    (∀ {finish : Roll Key} (later : Run after finish), ∀ countdown ∈ later.started,
      countdown.key = key → roll.registered < countdown.action) ↔ ¬ roll.Awaits key := by
  have change := follow?_change followed
  obtain ⟨frames, entries⟩ := change.supersedes call
  constructor
  -- The call leaves the batch as it is, so the action in it can still be started.
  · rintro safe ⟨frame, member, countdown, listed, same⟩
    obtain ⟨finish, later, started⟩ :=
      starts_awaited (.start : Run after after) (frames ▸ member) listed
    have held : countdown.pledge ∈ roll.held := batch_held member (List.mem_map_of_mem listed)
    exact Nat.not_lt.mpr (run.held_registered _ held) (safe later countdown started same)
  -- All that is held under the key is what the call itself has registered.
  · intro none finish later
    have fresh : after.Fresh key roll.registered := by
      refine ⟨change.registered_le, fun pledge member same => ?_⟩
      rcases List.mem_append.mp member with entry | due
      · obtain ⟨countdown, present, rfl⟩ := List.mem_map.mp entry
        exact entries countdown present same
      · obtain ⟨frame, among, listed⟩ := List.mem_flatMap.mp due
        obtain ⟨countdown, present, rfl⟩ := List.mem_map.mp listed
        exact absurd ⟨frame, frames ▸ among, countdown, present, same⟩ none
    exact (later.started_fresh fresh).2

def oneCountdown : Σ finish, Run (fresh Nat 0) finish :=
  (Run.start.extend? [.schedule 0 (Span.ofMillis 10), .poll 0, .pass 5]).get rfl

theorem replaced_countdown_silent :
    ∃ after, oneCountdown.1.follow? (.schedule 0 (Span.ofMillis 10)) = some after ∧
      ¬ oneCountdown.1.Awaits 0 ∧
      ∀ {finish : Roll Nat} (later : Run after finish), ∀ countdown ∈ later.started,
        countdown.key = 0 → 1 < countdown.action := by
  have followed : oneCountdown.1.follow? (.schedule 0 (Span.ofMillis 10)) = some _ := rfl
  refine ⟨_, followed, by decide, ?_⟩
  exact (supersession_exact oneCountdown.2 followed rfl).mpr (by decide)

/-- The first of three countdowns pauses the other two at the moment they are due. They are resumed,
and the action of the one is running. -/
def threeCountdowns : Σ finish, Run (fresh Nat 0) finish :=
  (Run.start.extend? [.schedule 0 (Span.ofMillis 10), .schedule 1 (Span.ofMillis 10),
    .schedule 2 (Span.ofMillis 10), .poll 0, .poll 0, .poll 0, .pass 10, .poll 0, .pause,
    .handBack, .resume, .proceed]).get rfl

/-- Now every countdown is dropped, and yet the action of the third is started next. -/
theorem dropped_countdown_started :
    ∃ after, threeCountdowns.1.follow? .cancelAll = some after ∧
      ∃ (finish : Roll Nat) (later : Run after finish), ∃ countdown ∈ later.started,
        countdown.key = 2 ∧ countdown.action ≤ threeCountdowns.1.registered := by
  refine ⟨_, rfl, _, (Run.start.next .handBack rfl).next .proceed rfl, ?_⟩
  decide

end Run

end Roll

end Toasts

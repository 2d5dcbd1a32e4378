import Toasts.Proofs.Bookings

/-!
Neither time nor an action is lost by a timekeeper. Over a whole run, what is left of a countdown is
the delay it was booked with, less the time without a pause since then; and what has been booked is
held, has been started, or has been superseded, but never started twice or started and still held.
-/

namespace Toasts

namespace Roll

variable {Key : Type} [DecidableEq Key] {roll after : Roll Key} {event : TimeEvent Key} {key : Key}

namespace Run

variable {start finish : Roll Key} {now : Nat}

theorem watched (run : Run (fresh Key now) finish) :
    Watched some False finish.keeper.countdowns finish.keeper.agenda := by
  induction run with
  | start => exact Watched.initial _ _ _
  | next run event followed ih => exact follow?_watched followed ih

theorem booked_number {running : Nat} {booking : Booking Key}
    (followed : roll.follow? event = some after)
    (booked : roll.books? event running = some booking) :
    booking.number = roll.registered + 1 ∧ after.registered = roll.registered + 1 := by
  obtain ⟨schedule, _, number, _⟩ := of_books? booked
  subst schedule
  cases follow?_change followed
  exact ⟨number, rfl⟩

theorem bookings_numbered (run : Run start finish) :
    (run.bookings.map (·.number)).Nodup ∧
      ∀ booking ∈ run.bookings, booking.number ≤ finish.registered := by
  induction run with
  | start => simp [bookings]
  | @next roll after run event followed ih =>
      obtain ⟨distinct, bounded⟩ := ih
      have grows := (follow?_change followed).registered_le
      cases booked : roll.books? event run.running with
      | none =>
          simp only [bookings, booked, Option.toList_none, List.nil_append]
          exact ⟨distinct, fun booking member => Nat.le_trans (bounded booking member) grows⟩
      | some new =>
          obtain ⟨number, registered⟩ := booked_number followed booked
          simp only [bookings, booked, Option.toList_some, List.singleton_append, List.map_cons,
            List.nodup_cons, List.forall_mem_cons]
          refine ⟨⟨fun clash => ?_, distinct⟩, by omega, fun booking member => ?_⟩
          · obtain ⟨old, member, same⟩ := List.mem_map.mp clash
            have bound := bounded old member
            omega
          · have bound := bounded booking member
            omega

theorem bookings_begun (run : Run start finish) :
    ∀ booking ∈ run.bookings, booking.since ≤ run.running := by
  induction run with
  | start => simp [bookings]
  | next run event followed ih =>
      intro booking member
      apply Nat.le_trans _ (Nat.le_add_right run.running _)
      rcases List.mem_append.mp member with new | old
      · obtain ⟨_, _, _, since⟩ := of_books? (Option.mem_toList.mp new)
        exact Nat.le_of_eq since
      · exact ih booking old

/-- What is left of a countdown is what is left of the latest booking of its key. -/
theorem entry_left (run : Run (fresh Key now) finish) {countdown : Countdown Key Nat}
    (found : finish.keeper.countdowns.get? key = some countdown) :
    ∃ booking, run.bookings.find? (·.key = key) = some booking ∧
      booking.number = countdown.action ∧ finish.remaining? key = some (booking.left run.running) := by
  induction run generalizing countdown with
  | start => cases found
  | @next roll after run event followed ih =>
      cases follow?_source followed run.watched found with
      | booked delay books left =>
          refine ⟨⟨key, delay, countdown.action, run.running⟩, ?_, rfl, ?_⟩
          · simp [bookings, books]
          · obtain ⟨schedule, _⟩ := of_books? (books run.running)
            have now := follow?_now followed fun moment => by simp [schedule]
            have still : roll.elapsed after = 0 := by simp [elapsed, now]
            simp [left, running, still, Booking.left]
      | kept old others before same left =>
          obtain ⟨booking, latest, number, remains⟩ := ih before
          refine ⟨booking, ?_, number.trans same, ?_⟩
          · have missed : (roll.books? event run.running).toList.find? (·.key = key) = none := by
              simpa using others run.running
            rw [bookings, List.find?_append, missed, Option.none_or, latest]
          · have begun := run.bookings_begun booking (List.mem_of_find?_eq_some latest)
            rw [left, remains, Option.map_some, running, booking.left_later begun]

theorem next_spent (run : Run start roll) {pledge : Key × Nat}
    (followed : roll.follow? event = some after)
    (spent : ∃ booking ∈ run.bookings, booking.pledge = pledge ∧
      booking.left run.running = Span.zero) :
    ∃ booking ∈ (run.next event followed).bookings, booking.pledge = pledge ∧
      booking.left (run.next event followed).running = Span.zero := by
  obtain ⟨booking, member, same, empty⟩ := spent
  refine ⟨booking, List.mem_append_right _ member, same, ?_⟩
  exact Booking.left_spent empty (Nat.le_add_right _ _)

theorem awaited_spent (run : Run (fresh Key now) finish) :
    ∀ pledge ∈ awaited finish.keeper.frames, ∃ booking ∈ run.bookings,
      booking.pledge = pledge ∧ booking.left run.running = Span.zero := by
  induction run with
  | start => simp [awaited, Roll.fresh]
  | @next roll after run event followed ih =>
      intro pledge member
      apply next_spent run followed
      rcases (follow?_change followed).awaited pledge member with before | ⟨countdown, due, rfl⟩
      · exact ih pledge before
      · obtain ⟨paused, present, empty⟩ := Countdowns.of_mem_due due
        have found := Countdowns.get?_of_mem run.watched.distinct present
        obtain ⟨booking, latest, number, left⟩ := run.entry_left found
        have hit : booking.key = countdown.key := of_decide_eq_true (List.find?_some latest :)
        refine ⟨booking, List.mem_of_find?_eq_some latest, Prod.ext hit number, ?_⟩
        simp only [Roll.remaining?, Countdowns.remaining?, found, paused, if_true, Option.map_some,
          Option.some.injEq] at left
        rw [← left]
        exact (Span.isZero_iff _).mp empty

/-- An action is started only when nothing is left of its booking. -/
theorem started_spent {countdown : Countdown Key Nat} (run : Run (fresh Key now) roll)
    (followed : roll.follow? event = some after)
    (started : roll.starts? event after = some countdown) :
    ∃ booking ∈ run.bookings, booking.pledge = countdown.pledge ∧
      booking.left run.running = Span.zero := by
  rcases (follow?_change followed).started started with
    ⟨_, batch, rest, top⟩ | ⟨place, _, _, _, rfl, _⟩
  · apply run.awaited_spent
    simp [top, TimeFrame.batch]
  · have idle : roll.keeper.frames = [] := by
      obtain ⟨idle, _⟩ := by simpa [follow?] using followed
      exact idle
    cases follow?_polled followed with
    | waits agenda taken => simp [starts?, idle] at started
    | stale agenda key generation taken gone => simp [starts?, idle] at started
    | fires agenda key generation countdowns fired taken expired =>
        obtain rfl : fired = countdown := by simpa [starts?, idle] using started
        obtain ⟨found, _⟩ := Countdowns.expire?_some expired
        obtain ⟨booking, latest, number, left⟩ := run.entry_left found
        have hit : booking.key = key := of_decide_eq_true (List.find?_some latest :)
        have same := hit.trans (Countdowns.key_of_get? found).symm
        refine ⟨booking, List.mem_of_find?_eq_some latest, Prod.ext same number, ?_⟩
        have empty := run.watched.expired taken rfl expired
        exact Option.some.inj (left.symm.trans empty)

theorem actions_counted (run : Run (fresh Key now) finish) :
    run.started.Perm (run.ended ++ finish.underWay) := by
  induction run with
  | start => exact .refl _
  | @next roll after run event followed ih =>
      calc
        List.Perm _ ((run.ended ++ roll.underWay) ++ (roll.starts? event after).toList) :=
          ih.append_right _
        List.Perm _ (run.ended ++ ((roll.starts? event after).toList ++ roll.underWay)) := by
          rw [List.append_assoc]
          exact List.perm_append_comm.append_left _
        List.Perm _ ((run.next event followed).ended ++ after.underWay) := by
          rw [ended, List.append_assoc, (follow?_change followed).actions]

theorem tally_next (run : Run (fresh Key now) roll) (followed : roll.follow? event = some after) :
    ∃ dropped, (∀ pledge ∈ dropped, pledge ∈ roll.held ∧ event.supersedes pledge.1 = true) ∧
      ((run.next event followed).tally ++ dropped).Perm
        ((roll.books? event run.running).toList.map Booking.pledge ++ run.tally) := by
  obtain ⟨dropped, own, balance⟩ :=
    (follow?_change followed).balance run.watched.distinct run.running
  refine ⟨dropped, own, ?_⟩
  have whole := balance.append_left (run.started.map Countdown.pledge)
  apply List.perm_iff_count.mpr
  intro pledge
  have same := whole.count_eq pledge
  simp only [tally, started, List.map_append, List.count_append] at same ⊢
  omega

theorem tally_once (run : Run (fresh Key now) finish) :
    (run.tally.map Prod.snd).Nodup ∧ ∀ pledge ∈ run.tally, pledge.2 ≤ finish.registered := by
  induction run with
  | start => simp [tally, started, held, Roll.fresh]
  | @next roll after run event followed ih =>
      obtain ⟨once, bounded⟩ := ih
      obtain ⟨dropped, _, balance⟩ := run.tally_next followed
      have grows := (follow?_change followed).registered_le
      constructor
      · have all : (((roll.books? event run.running).toList.map Booking.pledge ++ run.tally).map
            Prod.snd).Nodup := by
          cases booked : roll.books? event run.running with
          | none => simpa using once
          | some booking =>
              obtain ⟨number, _⟩ := booked_number followed booked
              simp only [Option.toList_some, List.map_cons, List.map_nil, List.cons_append,
                List.nil_append, List.nodup_cons]
              refine ⟨fun clash => ?_, once⟩
              obtain ⟨pledge, member, same⟩ := List.mem_map.mp clash
              have bound := bounded pledge member
              simp only [Booking.pledge] at same
              omega
        have both := (balance.map Prod.snd).nodup_iff.mpr all
        rw [List.map_append] at both
        exact (List.nodup_append.mp both).1
      · intro pledge member
        rcases List.mem_append.mp (balance.subset (List.mem_append_left _ member)) with new | old
        · obtain ⟨booking, booked, rfl⟩ := List.mem_map.mp new
          obtain ⟨number, registered⟩ := booked_number followed (Option.mem_toList.mp booked)
          simp only [Booking.pledge]
          omega
        · exact Nat.le_trans (bounded pledge old) grows

theorem standing_tally (run : Run (fresh Key now) finish) :
    ∀ booking ∈ run.standing, booking.pledge ∈ run.tally := by
  induction run with
  | start => simp [standing]
  | @next roll after run event followed ih =>
      intro booking member
      obtain ⟨dropped, own, balance⟩ := run.tally_next followed
      -- It is on the one side of the balance, and it has not been dropped.
      have among : booking.pledge ∈ (run.next event followed).tally ++ dropped := by
        apply balance.symm.subset
        rcases List.mem_append.mp member with new | old
        · exact List.mem_append_left _ (List.mem_map_of_mem new)
        · exact List.mem_append_right _ (ih booking (List.mem_filter.mp old).1)
      rcases List.mem_append.mp among with here | gone
      · exact here
      · obtain ⟨held, superseded⟩ := own _ gone
        rcases List.mem_append.mp member with new | old
        · obtain ⟨_, _, number, _⟩ := of_books? (Option.mem_toList.mp new)
          have bound := run.held_registered _ held
          simp only [Booking.pledge] at bound
          omega
        · have stands := (List.mem_filter.mp old).2
          simp only [Booking.pledge] at superseded
          simp [superseded] at stands

/-- A timekeeper conserves time and actions, whatever the caller does and at whatever depth. What is
left of a countdown is the delay of the latest booking of its key, less the time without a pause
since then. Every booking has a number of its own, and no action is started twice, nor started and
still held. None is started before the countdowns have been running for the whole delay of its
booking. What has been booked and not superseded is held by the countdowns or in a batch, or has
been started. And what has been started is just what is running or has been run. -/
theorem time_conserved (run : Run (fresh Key now) finish) :
    (∀ key, finish.keeper.countdowns.has key = true → ∃ booking,
      run.bookings.find? (·.key = key) = some booking ∧ finish.remaining? key =
        some (booking.delay.after ((run.running - booking.since) * nanosPerMilli))) ∧
    (run.bookings.map (·.number)).Nodup ∧
    ((run.started.map Countdown.pledge ++ finish.held).map Prod.snd).Nodup ∧
    (∀ {event after}, finish.follow? event = some after → ∀ countdown,
      finish.starts? event after = some countdown → ∃ booking ∈ run.bookings,
        booking.pledge = countdown.pledge ∧
        booking.delay.nanos ≤ (run.running - booking.since) * nanosPerMilli) ∧
    (∀ booking ∈ run.standing, booking.pledge ∈ finish.held ∨
      ∃ countdown ∈ run.started, countdown.pledge = booking.pledge) ∧
    run.started.Perm (run.ended ++ finish.underWay) := by
  refine ⟨?_, run.bookings_numbered.1, run.tally_once.1, ?_, ?_, run.actions_counted⟩
  · intro key held
    obtain ⟨countdown, found⟩ := Countdowns.has_iff.mp held
    obtain ⟨booking, latest, _, left⟩ := run.entry_left found
    exact ⟨booking, latest, left⟩
  · intro event after followed countdown started
    obtain ⟨booking, member, same, spent⟩ := run.started_spent followed started
    refine ⟨booking, member, same, ?_⟩
    have none := congrArg Span.nanos spent
    simp only [Booking.left, Span.nanos_after, Span.zero] at none
    omega
  · intro booking member
    rcases List.mem_append.mp (run.standing_tally booking member) with started | held
    · exact .inr (List.mem_map.mp started)
    · exact .inl held

/-- Of two countdowns the one ends at the moment of a pause; later both are resumed. -/
def frozen : Σ finish, Run (fresh Nat 0) finish :=
  (Run.start.extend? [.schedule 0 (Span.ofMillis 10), .schedule 1 (Span.ofMillis 5), .poll 0,
    .poll 0, .pass 5, .pause, .pass 9, .pause, .resume]).get rfl

theorem frozen_conserved :
    (frozen.1.keeper.countdowns.has 0 = true ∧ frozen.1.remaining? 0 = some (Span.ofMillis 5) ∧
      ∃ booking, frozen.2.bookings.find? (·.key = 0) = some booking ∧ frozen.1.remaining? 0 =
        some (booking.delay.after ((frozen.2.running - booking.since) * nanosPerMilli))) ∧
    (∃ after countdown, frozen.1.follow? .proceed = some after ∧
      frozen.1.starts? .proceed after = some countdown ∧ ∃ booking ∈ frozen.2.bookings,
        booking.pledge = countdown.pledge ∧
        booking.delay.nanos ≤ (frozen.2.running - booking.since) * nanosPerMilli) ∧
    ∃ booking ∈ frozen.2.standing, booking.key = 1 ∧ (booking.pledge ∈ frozen.1.held ∨
      ∃ countdown ∈ frozen.2.started, countdown.pledge = booking.pledge) := by
  obtain ⟨left, _, _, whole, lost, _⟩ := time_conserved frozen.2
  refine ⟨⟨by decide, by decide, left 0 (by decide)⟩, ?_, ?_⟩
  · have followed : frozen.1.follow? .proceed = some _ := rfl
    exact ⟨_, _, followed, rfl, whole followed _ rfl⟩
  · exact ⟨_, List.mem_cons_self, rfl, lost _ List.mem_cons_self⟩

end Run

end Roll

end Toasts

import Toasts.Proofs.Supersession
import Toasts.Proofs.Vigils

/-!
The two accounts of a timekeeper. What is left of a countdown after an event is what the event has
booked, or what was left before less the time that counts. And the actions held before an event and
the one it books are those held after it, the one it starts and those it supersedes. Pauses and
resumptions have no part in either account.
-/

namespace Toasts

/-- A countdown as it was asked for: its key and delay, the number of its action, and for how many
milliseconds of the run the countdowns had been running by then. -/
structure Booking (Key : Type) where
  key : Key
  delay : Span
  number : Nat
  since : Nat

namespace Booking

variable {Key : Type}

def pledge (booking : Booking Key) : Key × Nat := (booking.key, booking.number)

def left (booking : Booking Key) (running : Nat) : Span :=
  booking.delay.after ((running - booking.since) * nanosPerMilli)

theorem left_later (booking : Booking Key) {running : Nat} (begun : booking.since ≤ running)
    (elapsed : Nat) :
    booking.left (running + elapsed) = (booking.left running).after (elapsed * nanosPerMilli) := by
  have total : running + elapsed - booking.since = (running - booking.since) + elapsed := by omega
  rw [left, left, Span.after_after, total, Nat.add_mul]

theorem left_spent {booking : Booking Key} {running : Nat} (spent : booking.left running = Span.zero)
    {later : Nat} (forward : running ≤ later) : booking.left later = Span.zero := by
  have empty := (Span.isZero_iff _).mpr spent
  apply (Span.isZero_iff _).mp
  simp only [left, Span.isZero, Span.nanos_after, beq_iff_eq] at empty ⊢
  have more := Nat.mul_le_mul_right nanosPerMilli (Nat.sub_le_sub_right forward booking.since)
  omega

end Booking

namespace Roll

variable {Key : Type} {roll after : Roll Key} {event : TimeEvent Key} {key : Key}

def elapsed (roll after : Roll Key) : Nat :=
  if roll.keeper.countdowns.paused then 0 else after.keeper.now - roll.keeper.now

/-- What an event books, the countdowns having been running for so long. -/
def books? (roll : Roll Key) (event : TimeEvent Key) (running : Nat) : Option (Booking Key) :=
  match event with
  | .schedule key delay =>
      if delay.isZero then none else some ⟨key, delay, roll.registered + 1, running⟩
  | _ => none

theorem of_books? {running : Nat} {booking : Booking Key}
    (booked : roll.books? event running = some booking) :
    event = .schedule booking.key booking.delay ∧ booking.delay.isZero = false ∧
      booking.number = roll.registered + 1 ∧ booking.since = running := by
  cases event with
  | schedule key delay =>
      cases lasting : delay.isZero with
      | true => simp [books?, lasting] at booked
      | false =>
          obtain rfl : _ = booking := by simpa [books?, lasting] using booked
          exact ⟨rfl, lasting, rfl, rfl⟩
  | _ => cases booked

def awaited (frames : List (TimeFrame Key Nat)) : List (Key × Nat) :=
  frames.flatMap fun frame => frame.batch.map Countdown.pledge

theorem held_eq (roll : Roll Key) : roll.held =
    roll.keeper.countdowns.entries.map Countdown.pledge ++ awaited roll.keeper.frames := rfl

@[simp] theorem awaited_cons (frame : TimeFrame Key Nat) (rest : List (TimeFrame Key Nat)) :
    awaited (frame :: rest) = frame.batch.map Countdown.pledge ++ awaited rest := by
  simp [awaited]

namespace Run

variable [DecidableEq Key] {start finish : Roll Key}

/-- For how many milliseconds of a run the countdowns have been running. -/
def running {finish : Roll Key} : Run start finish → Nat
  | .start => 0
  | @Run.next _ _ _ roll after run _ _ => run.running + roll.elapsed after

def bookings {finish : Roll Key} : Run start finish → List (Booking Key)
  | .start => []
  | @Run.next _ _ _ roll _ run event _ => (roll.books? event run.running).toList ++ run.bookings

/-- What has been booked and not superseded since. -/
def standing {finish : Roll Key} : Run start finish → List (Booking Key)
  | .start => []
  | @Run.next _ _ _ roll _ run event _ =>
      (roll.books? event run.running).toList ++
        run.standing.filter fun booking => !event.supersedes booking.key

def tally {finish : Roll Key} (run : Run start finish) : List (Key × Nat) :=
  run.started.map Countdown.pledge ++ finish.held

end Run

variable [DecidableEq Key]

inductive Polled (roll : Roll Key) : Roll Key → Prop where
  | waits (agenda : Agenda (Key × Nat)) (taken : roll.keeper.agenda.TakesUp agenda none) :
      Polled roll { roll with keeper := { roll.keeper with agenda } }
  | stale (agenda : Agenda (Key × Nat)) (key : Key) (generation : Nat)
      (taken : roll.keeper.agenda.TakesUp agenda (some (key, generation)))
      (gone : roll.keeper.countdowns.expire? key generation = none) :
      Polled roll { roll with keeper := { roll.keeper with agenda } }
  | fires (agenda : Agenda (Key × Nat)) (key : Key) (generation : Nat)
      (countdowns : Countdowns Key Nat) (countdown : Countdown Key Nat)
      (taken : roll.keeper.agenda.TakesUp agenda (some (key, generation)))
      (expired : roll.keeper.countdowns.expire? key generation = some (countdowns, countdown)) :
      Polled roll { roll with keeper := { countdowns, agenda, frames := [.action countdown] } }

theorem follow?_polled {place : Nat} (followed : roll.follow? (.poll place) = some after) :
    Polled roll after := by
  obtain ⟨idle, keeper, taken, rfl⟩ := by simpa [follow?] using followed
  simp only [Timekeeper.poll?] at taken
  split at taken
  next => cases taken
  next agenda next =>
      obtain rfl := Option.some.inj taken
      exact .waits agenda (Agenda.next?_takesUp _ _ place _ next)
  next agenda key generation next =>
      have takes := Agenda.next?_takesUp _ _ place _ next
      split at taken
      next countdowns countdown expired =>
          obtain rfl := Option.some.inj taken
          rw [idle]
          exact .fires agenda key generation countdowns countdown takes expired
      next gone =>
          obtain rfl := Option.some.inj taken
          exact .stale agenda key generation takes gone

theorem follow?_passed {moment : Nat} (followed : roll.follow? (.pass moment) = some after) :
    roll.keeper.now ≤ moment ∧ after = { roll with keeper := roll.keeper.advance moment } := by
  obtain ⟨⟨_, later⟩, rfl⟩ := by simpa [follow?] using followed
  exact ⟨later, rfl⟩

theorem follow?_now (followed : roll.follow? event = some after)
    (timeless : ∀ moment, event ≠ .pass moment) : after.keeper.now = roll.keeper.now := by
  have kept (keeper : Timekeeper Key Nat) (vigils : List (Vigil Key)) :
      (keeper.keepVigils vigils).now = keeper.now :=
    @Agenda.keep_now _ _ Prod.mk keeper.agenda vigils
  cases event with
  | poll place =>
      cases follow?_polled followed with
      | waits agenda taken => exact taken.now
      | stale agenda key generation taken gone => exact taken.now
      | fires agenda key generation countdowns countdown taken expired => exact taken.now
  | pass moment => exact absurd rfl (timeless moment)
  | schedule key delay =>
      cases follow?_change followed
      exact kept _ _
  | resume =>
      cases follow?_change followed
      exact kept _ _
  | _ =>
      cases follow?_change followed
      all_goals rfl

theorem follow?_watched (followed : roll.follow? event = some after)
    (watched : Watched some False roll.keeper.countdowns roll.keeper.agenda) :
    Watched some False after.keeper.countdowns after.keeper.agenda := by
  have made (key : Key) (generation : Nat) :
      some (Prod.mk key generation) = some (key, generation) := rfl
  cases event with
  | poll place =>
      cases follow?_polled followed with
      | waits agenda taken => exact watched.takesUp taken fun _ _ same => by cases same
      | stale agenda key generation taken gone => exact watched.missed taken rfl gone
      | fires agenda key generation countdowns countdown taken expired =>
          exact watched.ended taken rfl expired
  | pass moment =>
      obtain ⟨later, rfl⟩ := follow?_passed followed
      exact watched.advance later False.elim
  | schedule key delay =>
      cases follow?_change followed
      exact watched.scheduled made key delay _
  | cancel key =>
      cases follow?_change followed
      exact watched.thinned List.filter_sublist rfl rfl
  | cancelAll =>
      cases follow?_change followed
      exact watched.thinned (List.nil_sublist _) rfl rfl
  | pause =>
      cases follow?_change followed
      exact watched.paused
  | resume =>
      cases follow?_change followed
      exact watched.resumed made
  | proceed => cases follow?_change followed <;> exact watched
  | handBack =>
      cases follow?_change followed
      exact watched

def remaining? (roll : Roll Key) (key : Key) : Option Span :=
  roll.keeper.countdowns.remaining? key roll.keeper.now

inductive Source (roll : Roll Key) (event : TimeEvent Key) (after : Roll Key) (key : Key)
    (action : Nat) : Prop where
  | booked (delay : Span)
      (books : ∀ running, roll.books? event running = some ⟨key, delay, action, running⟩)
      (left : after.remaining? key = some delay)
  /-- It was there before, and the time that counts is taken from it. -/
  | kept (old : Countdown Key Nat)
      (others : ∀ running booking, roll.books? event running = some booking → booking.key ≠ key)
      (before : roll.keeper.countdowns.get? key = some old) (same : old.action = action)
      (left : after.remaining? key =
        (roll.remaining? key).map (·.after (roll.elapsed after * nanosPerMilli)))

theorem source_timeless {old : Countdown Key Nat} (followed : roll.follow? event = some after)
    (waits : ∀ moment, event ≠ .pass moment)
    (others : ∀ running booking, roll.books? event running = some booking → booking.key ≠ key)
    (before : roll.keeper.countdowns.get? key = some old)
    (same : after.keeper.countdowns.remaining? key roll.keeper.now = roll.remaining? key) :
    Source roll event after key old.action := by
  have now := follow?_now followed waits
  have still : roll.elapsed after = 0 := by simp [elapsed, now]
  exact .kept old others before rfl (by simp [remaining?, now, still, same])

theorem follow?_source {countdown : Countdown Key Nat} (followed : roll.follow? event = some after)
    (watched : Watched some False roll.keeper.countdowns roll.keeper.agenda)
    (found : after.keeper.countdowns.get? key = some countdown) :
    Source roll event after key countdown.action := by
  cases event with
  | schedule other delay =>
      have now := follow?_now followed fun _ => by simp
      have others (apart : key ≠ other) (running : Nat) (booking : Booking Key)
          (booked : roll.books? (.schedule other delay) running = some booking) :
          booking.key ≠ key := by
        rintro rfl
        obtain ⟨event, _⟩ := of_books? booked
        cases event
        exact apart rfl
      cases follow?_change followed
      simp only [Timekeeper.schedule, Timekeeper.keepVigils] at found
      cases lasting : delay.isZero with
      | true =>
          have same : (roll.keeper.countdowns.schedule other delay (roll.registered + 1)
              roll.keeper.now).1 = roll.keeper.countdowns := by simp [Countdowns.schedule, lasting]
          rw [same] at found
          apply source_timeless followed (fun _ => by simp) _ found
          · simp only [Timekeeper.schedule, Timekeeper.keepVigils, same, remaining?]
          · intro running booking booked
            simp [books?, lasting] at booked
      | false =>
          rw [Countdowns.get?_schedule _ _ _ _ _ _ lasting] at found
          have left := Countdowns.remaining?_schedule roll.keeper.countdowns other key delay
            (roll.registered + 1) roll.keeper.now lasting
          by_cases hit : key = other
          · subst hit
            rw [if_pos rfl] at found left
            obtain rfl := Option.some.inj found
            apply Source.booked delay
            · intro running
              simp [books?, lasting]
            · rw [remaining?, now]
              exact left
          · rw [if_neg hit] at found left
            exact source_timeless followed (fun _ => by simp) (others hit) found left
  | cancel other =>
      cases follow?_change followed
      have apart : key ≠ other := by
        rintro rfl
        simp [Timekeeper.cancel, Countdowns.get?_cancel] at found
      have left := Countdowns.remaining?_cancel roll.keeper.countdowns other key roll.keeper.now
      simp only [Timekeeper.cancel, Countdowns.get?_cancel, if_neg apart] at found
      rw [if_neg apart] at left
      exact source_timeless followed (fun _ => by simp) (fun _ _ booked => by cases booked) found left
  | cancelAll =>
      cases follow?_change followed
      cases found
  | pause =>
      cases follow?_change followed
      have left := Countdowns.remaining?_pause roll.keeper.countdowns key roll.keeper.now
      simp only [Timekeeper.pause, Countdowns.get?_pause, Option.map_eq_some_iff] at found
      obtain ⟨old, before, frozen⟩ := found
      have same : countdown.action = old.action := by
        rw [← frozen]
        split <;> rfl
      rw [same]
      exact source_timeless followed (fun _ => by simp) (fun _ _ booked => by cases booked) before left
  | resume =>
      cases follow?_change followed
      have left := Countdowns.remaining?_resume watched.distinct roll.keeper.now
        (Countdowns.has_iff.mpr ⟨_, found⟩)
      have origin : ∃ old, roll.keeper.countdowns.get? key = some old ∧
          countdown.action = old.action := by
        simp only [Timekeeper.resume, Timekeeper.keepVigils] at found
        cases paused : roll.keeper.countdowns.paused with
        | false =>
            rw [Countdowns.resume_running paused] at found
            exact ⟨countdown, found, rfl⟩
        | true =>
            obtain ⟨old, before, _, number, _, _, renewal⟩ :=
              Countdowns.get?_resume_some watched.distinct paused found
            exact ⟨old, before, by rw [renewal]⟩
      obtain ⟨old, before, same⟩ := origin
      rw [same]
      exact source_timeless followed (fun _ => by simp) (fun _ _ booked => by cases booked) before left
  | proceed =>
      cases follow?_change followed <;>
        exact source_timeless followed (fun _ => by simp) (fun _ _ booked => by cases booked) found rfl
  | handBack =>
      cases follow?_change followed
      exact source_timeless followed (fun _ => by simp) (fun _ _ booked => by cases booked) found rfl
  | poll place =>
      have timeless {old : Countdown Key Nat} (before : roll.keeper.countdowns.get? key = some old)
          (left : after.keeper.countdowns.remaining? key roll.keeper.now = roll.remaining? key) :
          Source roll (.poll place) after key old.action :=
        source_timeless followed (fun _ => by simp) (fun _ _ booked => by cases booked) before left
      cases follow?_polled followed with
      | waits agenda taken => exact timeless found rfl
      | stale agenda key generation taken gone => exact timeless found rfl
      | fires agenda other generation countdowns fired taken expired =>
          obtain ⟨_, _, _, rfl⟩ := Countdowns.expire?_some expired
          have apart : key ≠ other := by
            rintro rfl
            simp [Countdowns.get?_cancel] at found
          have left := Countdowns.remaining?_cancel roll.keeper.countdowns other key roll.keeper.now
          simp only [Countdowns.get?_cancel, if_neg apart] at found
          rw [if_neg apart] at left
          exact timeless found left
  | pass moment =>
      obtain ⟨later, rfl⟩ := follow?_passed followed
      have before : roll.keeper.countdowns.get? key = some countdown := found
      refine .kept countdown (fun _ _ booked => by cases booked) before rfl ?_
      exact Countdowns.remaining?_later roll.keeper.countdowns key watched.begun later

def entrusted (countdowns : Countdowns Key Nat) (key : Key) : List (Key × Nat) :=
  (countdowns.entries.filter (·.key = key)).map Countdown.pledge

theorem entrusted_held {pledge : Key × Nat}
    (member : pledge ∈ entrusted roll.keeper.countdowns key) :
    pledge ∈ roll.held ∧ pledge.1 = key := by
  obtain ⟨countdown, present, rfl⟩ := List.mem_map.mp member
  obtain ⟨entry, same⟩ := List.mem_filter.mp present
  exact ⟨entries_held roll (List.mem_map_of_mem entry), of_decide_eq_true same⟩

theorem cancel_balance (countdowns : Countdowns Key Nat) (key : Key) (pledge : Key × Nat) :
    (countdowns.entries.map Countdown.pledge).count pledge =
      ((countdowns.cancel key).entries.map Countdown.pledge).count pledge +
        (entrusted countdowns key).count pledge := by
  have split := (List.filter_append_perm (fun countdown : Countdown Key Nat =>
    decide (countdown.key ≠ key)) countdowns.entries).map Countdown.pledge
  rw [← split.count_eq pledge]
  simp [Countdowns.cancel, entrusted, List.count_append]

theorem resume_balance (countdowns : Countdowns Key Nat) (now : Nat) (pledge : Key × Nat) :
    (countdowns.entries.map Countdown.pledge).count pledge =
      ((countdowns.resume now).countdowns.entries.map Countdown.pledge).count pledge +
        ((countdowns.resume now).due.map Countdown.pledge).count pledge := by
  cases paused : countdowns.paused with
  | false => simp [Countdowns.resume_running paused]
  | true =>
      have split := (List.filter_append_perm (fun countdown : Countdown Key Nat =>
        countdown.remaining.isZero) countdowns.entries).map Countdown.pledge
      simp only [Countdowns.resume, paused, if_true]
      rw [Countdowns.restart_map Countdown.pledge fun _ _ _ => rfl, ← split.count_eq pledge,
        List.map_append, List.count_append, Nat.add_comm]

/-- The actions that an event books, the one it starts, those it drops and those held before and
after it balance; and it drops none but what it supersedes. -/
theorem Change.balance (change : Change roll event after)
    (distinct : roll.keeper.countdowns.Distinct) (running : Nat) :
    ∃ dropped, (∀ pledge ∈ dropped, pledge ∈ roll.held ∧ event.supersedes pledge.1 = true) ∧
      ((roll.starts? event after).toList.map Countdown.pledge ++ after.held ++ dropped).Perm
        ((roll.books? event running).toList.map Booking.pledge ++ roll.held) := by
  -- Most events drop nothing.
  have lossless (same : ∀ pledge,
      ((roll.starts? event after).toList.map Countdown.pledge ++ after.held).count pledge =
        ((roll.books? event running).toList.map Booking.pledge ++ roll.held).count pledge) :
      ∃ dropped, (∀ pledge ∈ dropped, pledge ∈ roll.held ∧ event.supersedes pledge.1 = true) ∧
        ((roll.starts? event after).toList.map Countdown.pledge ++ after.held ++ dropped).Perm
          ((roll.books? event running).toList.map Booking.pledge ++ roll.held) :=
    ⟨[], by simp, by simpa using List.perm_iff_count.mpr same⟩
  cases change with
  | schedule key delay =>
      cases lasting : delay.isZero with
      | true =>
          apply lossless
          intro pledge
          simp [starts?, books?, lasting, held_eq, Timekeeper.schedule, Timekeeper.keepVigils,
            Countdowns.schedule]
      | false =>
          refine ⟨entrusted roll.keeper.countdowns key, fun pledge member => ?_, ?_⟩
          · obtain ⟨present, same⟩ := entrusted_held member
            exact ⟨present, by simp [TimeEvent.supersedes, lasting, same]⟩
          · apply List.perm_iff_count.mpr
            intro pledge
            have entries := cancel_balance roll.keeper.countdowns key pledge
            have silent : roll.starts? (.schedule key delay)
                ⟨roll.keeper.schedule key delay (roll.registered + 1), roll.registered + 1⟩ = none :=
              starts?_of_still rfl rfl
            rw [silent]
            simp only [books?, lasting, held_eq, Timekeeper.schedule,
              Timekeeper.keepVigils, Countdowns.schedule, Bool.false_eq_true, if_false,
              List.map_append, List.count_append, List.map_cons, List.map_nil, Option.toList_none,
              Option.toList_some, List.count_nil, Countdown.pledge, Booking.pledge] at entries ⊢
            omega
  | cancel key =>
      refine ⟨entrusted roll.keeper.countdowns key, fun pledge member => ?_, ?_⟩
      · obtain ⟨present, same⟩ := entrusted_held member
        exact ⟨present, by simp [TimeEvent.supersedes, same]⟩
      · apply List.perm_iff_count.mpr
        intro pledge
        have entries := cancel_balance roll.keeper.countdowns key pledge
        have silent : roll.starts? (.cancel key) { roll with keeper := roll.keeper.cancel key } =
            none := starts?_of_still rfl rfl
        rw [silent]
        simp only [books?, held_eq, Timekeeper.cancel, List.count_append, List.map_nil,
          Option.toList_none, List.count_nil] at entries ⊢
        omega
  | cancelAll =>
      refine ⟨_, fun pledge member => ⟨entries_held roll member, rfl⟩, ?_⟩
      apply List.perm_iff_count.mpr
      intro pledge
      simp [starts?, books?, held_eq, Timekeeper.cancelAll, Countdowns.cancelAll, Nat.add_comm]
  | pause =>
      apply lossless
      intro pledge
      simp [starts?, books?, held_eq, Timekeeper.pause, pause_pledges]
  | resume =>
      apply lossless
      intro pledge
      have entries := resume_balance roll.keeper.countdowns roll.keeper.now pledge
      have silent : roll.starts? .resume { roll with keeper := roll.keeper.resume } = none :=
        starts?_of_head rfl
      rw [silent]
      simp only [books?, held_eq, Timekeeper.resume, Timekeeper.keepVigils,
        List.count_append, awaited_cons, TimeFrame.batch, List.map_nil, Option.toList_none,
        List.count_nil] at entries ⊢
      omega
  | done rest top =>
      apply lossless
      intro pledge
      simp [starts?, books?, held_eq, top, TimeFrame.batch]
  | hands countdown batch rest top =>
      apply lossless
      intro pledge
      have started : roll.starts? .proceed { roll with keeper := { roll.keeper with
          frames := .action countdown :: .due batch :: rest } } = some countdown :=
        starts?_pushed rfl (by simp [top])
      rw [started]
      simp only [books?, held_eq, top, awaited_cons, TimeFrame.batch, List.map_cons,
        List.map_nil, Option.toList_none, Option.toList_some, List.count_append, List.count_cons,
        List.count_nil]
      omega
  | handBack frame rest top idle =>
      apply lossless
      intro pledge
      simp [starts?, books?, held_eq, top, idle]
  | waits place agenda idle =>
      apply lossless
      intro pledge
      simp [starts?, books?, held_eq, idle]
  | fires place agenda key generation countdowns countdown idle expired =>
      obtain ⟨found, _, _, rfl⟩ := Countdowns.expire?_some expired
      apply lossless
      intro pledge
      have entries := cancel_balance roll.keeper.countdowns key pledge
      rw [entrusted, Countdowns.filter_of_get? distinct found] at entries
      have started : roll.starts? (.poll place) { roll with keeper :=
          { agenda, countdowns := roll.keeper.countdowns.cancel key,
            frames := [.action countdown] } } = some countdown :=
        starts?_pushed rfl (by simp [idle])
      rw [started]
      simp only [books?, held_eq, idle, awaited_cons, TimeFrame.batch, List.map_cons,
        List.map_nil, Option.toList_none, Option.toList_some, List.count_append, List.count_cons,
        List.count_nil] at entries ⊢
      omega
  | pass moment idle =>
      apply lossless
      intro pledge
      simp [starts?, books?, held_eq, Timekeeper.advance]

theorem Change.awaited (change : Change roll event after) :
    ∀ pledge ∈ awaited after.keeper.frames, pledge ∈ awaited roll.keeper.frames ∨
      ∃ countdown ∈ (roll.keeper.countdowns.resume roll.keeper.now).due,
        countdown.pledge = pledge := by
  intro pledge member
  cases change with
  | schedule key delay => exact .inl member
  | cancel key => exact .inl member
  | cancelAll => exact .inl member
  | pause => exact .inl member
  | resume =>
      simp only [Timekeeper.resume, Timekeeper.keepVigils, awaited_cons, TimeFrame.batch,
        List.map_nil, List.nil_append, List.mem_append, List.mem_map] at member
      rcases member with due | before
      · exact .inr due
      · exact .inl before
  | done rest top =>
      rw [top, awaited_cons]
      exact .inl (List.mem_append_right _ member)
  | hands countdown batch rest top =>
      rw [top, awaited_cons, TimeFrame.batch, List.map_cons]
      exact .inl (List.mem_cons_of_mem _ (by simpa [TimeFrame.batch] using member))
  | handBack frame rest top idle =>
      rw [top, awaited_cons]
      exact .inl (List.mem_append_right _ member)
  | waits place agenda idle => exact .inl member
  | fires place agenda key generation countdowns countdown idle expired =>
      rw [awaited_cons] at member
      cases member
  | pass moment idle => exact .inl member

end Roll

end Toasts

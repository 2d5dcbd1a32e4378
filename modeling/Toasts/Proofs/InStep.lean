import Toasts.Proofs.Wishes

/-!
Countdowns in step with records. A toast and its countdown agree when the operation on it that was
begun last and the one that was finished last wish for the same. They always do at rest if no
operation on the toast is begun while another one on it is under way; a listener that dismisses a
toast while it is still being shown makes them differ.
-/

namespace Toasts

namespace Engine

/-- The countdown of a toast had nothing left at a resumption, and its dismissal is still to come. -/
def isDue (engine : Engine) (id : ToastId) : Prop :=
  ∃ ids, Frame.due ids ∈ engine.frames ∧ id ∈ ids

namespace Run

variable {start finish : Engine}

/-- A toast has a countdown exactly when its record calls for one, and that was started with what
the record calls for. -/
structure InStep (run : Run start finish) (id : ToastId) : Prop where
  held : finish.countdowns.has id = true ↔ (finish.called id).isSome = true
  delay : finish.countdowns.has id = true → run.armedWith id = finish.called id

instance (run : Run start finish) (id : ToastId) : Decidable (run.InStep id) :=
  decidable_of_iff ((finish.countdowns.has id = true ↔ (finish.called id).isSome = true) ∧
    (finish.countdowns.has id = true → run.armedWith id = finish.called id))
    ⟨fun both => ⟨both.1, both.2⟩, fun step => ⟨step.held, step.delay⟩⟩

/-- An operation on a toast was begun while another one on it was under way. -/
def overlaps (id : ToastId) {finish : Engine} : Run start finish → Bool
  | .start => false
  | @Run.next _ engine after run _ _ =>
      run.overlaps id || ((engine.begins? after id).isSome && !(wishes id engine.frames).isEmpty)

end Run

theorem Leaves.called {engine after : Engine} {toast : Toast} {cause : Cause}
    (leaves : Leaves engine after toast cause) : after.called toast.id = none := by
  rw [called_replaced leaves.found (rfl : toast.leave.id = toast.id) leaves.publishes.toasts,
    if_pos rfl]
  rfl

theorem called_of_gone {engine : Engine} {id : ToastId}
    (gone : ∀ toast, engine.get? id = some toast → toast.exiting = true) :
    engine.called id = none := by
  cases found : engine.get? id with
  | none => exact called_of_absent found
  | some toast => simp [called, found, Toast.call, Toast.isLive, gone toast found]

theorem Move.due_kept {engine after : Engine} {event : Event} (move : Move engine event after)
    {id : ToastId} (due : engine.isDue id) : after.isDue id ∨ after.called id = none := by
  obtain ⟨ids, member, listed⟩ := due
  have passed {frame : Frame} {rest : List Frame} (top : engine.frames = frame :: rest)
      (other : frame ≠ .due ids) : Frame.due ids ∈ rest := by
    rw [top] at member
    exact (List.mem_cons.mp member).resolve_left (Ne.symm other)
  -- The stack changes at its top, so whatever lies below the top frame stays.
  have below {pushed rest : List Frame} (frames : after.frames = pushed ++ rest)
      (stays : Frame.due ids ∈ rest) : after.isDue id ∨ after.called id = none :=
    .inl ⟨ids, frames ▸ List.mem_append_right pushed stays, listed⟩
  have busy (idle : engine.frames = []) : False := by
    rw [idle] at member
    cases member
  cases move with
  | request operation after answer turn effect =>
      obtain ⟨pushed, frames, _⟩ := effect.above
      exact below frames (List.mem_cons_of_mem _ member)
  | published version snapshot pending rest top served =>
      exact below (rfl : _ = [] ++ rest) (passed top (by simp))
  | deliver version snapshot listener pending rest top current =>
      exact below (rfl : _ = [_, _] ++ rest) (passed top (by simp))
  | arm armed lifespan rest top =>
      obtain ⟨countdowns, agenda, shape⟩ := arm_shape { engine with frames := rest } armed lifespan
      exact below (by rw [shape]; rfl : _ = [] ++ rest) (passed top (by simp))
  | leave toast cause rest top =>
      exact below (List.append_assoc _ [_] rest).symm (passed top (by simp))
  | farewell toast rest top =>
      exact below (List.append_assoc _ [_] rest).symm (passed top (by simp))
  | exitWindow toast rest top => exact below (rfl : _ = [] ++ rest) (passed top (by simp))
  | disarm named rest top =>
      obtain ⟨countdowns, shape⟩ := disarm_shape { engine with frames := rest } named
      exact below (by rw [shape]; rfl : _ = [] ++ rest) (passed top (by simp))
  | dueDone rest top =>
      refine below (rfl : _ = [] ++ rest) (passed top fun same => ?_)
      cases same
      cases listed
  | dueGone first others rest top gone =>
      by_cases here : Frame.due ids = .due (first :: others)
      · cases here
        rcases List.mem_cons.mp listed with rfl | later
        · exact .inr (called_of_gone gone)
        · exact .inl ⟨others, List.mem_cons_self, later⟩
      · exact below (rfl : _ = [_] ++ rest) (passed top (Ne.symm here))
  | due toast others rest after top leaves =>
      have frames : after.frames =
          [after.announcement, .leave toast .countdown, .due others] ++ rest :=
        leaves.publishes.frames
      by_cases here : Frame.due ids = .due (toast.id :: others)
      · cases here
        rcases List.mem_cons.mp listed with rfl | later
        · exact .inr leaves.called
        · exact .inl ⟨others, by simp [frames], later⟩
      · exact below frames (passed top (Ne.symm here))
  | handBack frame rest top idle =>
      refine below (rfl : _ = [] ++ rest) (passed top fun same => ?_)
      rw [same] at idle
      cases idle
  | waits place agenda idle taken => exact (busy idle).elim
  | stale place agenda deed idle taken gone => exact (busy idle).elim
  | expireGone place agenda other generation countdowns countdown idle taken expired gone =>
      exact (busy idle).elim
  | expire place agenda toast generation countdowns countdown after idle taken expired leaves =>
      exact (busy idle).elim
  | remove place agenda removed edition after idle taken publishes => exact (busy idle).elim
  | errand place agenda ticket idle taken => exact (busy idle).elim
  | pass moment idle later => exact (busy idle).elim

theorem Move.ended {engine after : Engine} {event : Event} (move : Move engine event after)
    {id : ToastId} (unfinished : engine.finishes? event id = none)
    (held : engine.countdowns.has id = true) (gone : after.countdowns.has id = false) :
    after.isDue id ∨ after.called id = none := by
  have kept {countdowns : Countdowns ToastId Unit} (same : after.countdowns = countdowns)
      (stays : countdowns.has id = true) : after.isDue id ∨ after.called id = none := by
    rw [same, stays] at gone
    cases gone
  cases move with
  | request operation after answer turn effect =>
      cases effect with
      | calm pushed outside steady toasts version countdowns agenda frames =>
          exact kept countdowns held
      | shows shows =>
          cases shows with
          | revise toast revised options number found live made new publishes =>
              exact kept publishes.countdowns held
          | append toast options number made new publishes => exact kept publishes.countdowns held
      | leaves toast leaves => exact kept leaves.publishes.countdowns held
      | clears position publishes => exact kept publishes.countdowns held
      | spares position spared same => exact kept (by rw [same]; rfl) held
      | paints toast painted found made publishes => exact kept publishes.countdowns held
      | pauses same =>
          refine kept (by rw [same]) ?_
          rw [Countdowns.has_pause]
          exact held
      | resumes same =>
          cases paused : engine.countdowns.paused with
          | false =>
              refine kept (by rw [same]) ?_
              simpa [Countdowns.resume_running paused] using held
          | true =>
              subst same
              obtain ⟨countdown, found⟩ := Countdowns.has_iff.mp held
              have absent := Option.isNone_iff_eq_none.mp (Option.isSome_eq_false_iff.mp gone)
              obtain ⟨_, member⟩ := Countdowns.get?_resume_none paused absent found
              -- The resumption has dropped the countdown because nothing of it was left.
              refine .inl ⟨_, List.mem_cons_self, ?_⟩
              exact Countdowns.key_of_get? found ▸ List.mem_map_of_mem member
  | arm armed lifespan rest top =>
      have apart : armed ≠ id := fun same => by
        simp [finishes?_proceed top, Frame.asks?, same] at unfinished
      refine kept rfl ?_
      rw [arm_has, if_neg apart]
      exact held
  | leave toast cause rest top =>
      have apart : toast.id ≠ id := fun same => by
        simp [finishes?_proceed top, Frame.asks?, same] at unfinished
      refine kept rfl ?_
      simp [Countdowns.has_cancel, Ne.symm apart, held]
  | disarm named rest top =>
      refine kept rfl ?_
      rw [disarm_has]
      cases named with
      | none => simp [finishes?_proceed top, Frame.asks?] at unfinished
      | some ids =>
          have apart : id ∉ ids := by simpa [finishes?_proceed top, Frame.asks?] using unfinished
          simpa [apart] using held
  | due toast ids rest after top leaves => exact kept leaves.publishes.countdowns held
  | expireGone place agenda other generation countdowns countdown idle taken expired missing =>
      obtain ⟨_, _, _, rfl⟩ := Countdowns.expire?_some expired
      by_cases same : id = other
      · subst same
        exact .inr (called_of_gone missing)
      · exact kept rfl (by simp [Countdowns.has_cancel, same, held])
  | expire place agenda toast generation countdowns countdown after idle taken expired leaves =>
      obtain ⟨_, _, _, rfl⟩ := Countdowns.expire?_some expired
      by_cases same : id = toast.id
      · subst same
        exact .inr leaves.called
      · exact kept leaves.publishes.countdowns (by simp [Countdowns.has_cancel, same, held])
  | remove place agenda removed edition after idle taken publishes =>
      exact kept publishes.countdowns held
  | published version snapshot pending rest top served => exact kept rfl held
  | deliver version snapshot listener pending rest top current => exact kept rfl held
  | farewell toast rest top => exact kept rfl held
  | exitWindow toast rest top => exact kept rfl held
  | dueDone rest top => exact kept rfl held
  | dueGone other ids rest top gone => exact kept rfl held
  | handBack frame rest top idle => exact kept rfl held
  | waits place agenda idle taken => exact kept rfl held
  | stale place agenda deed idle taken gone => exact kept rfl held
  | errand place agenda ticket idle taken => exact kept rfl held
  | pass moment idle later => exact kept rfl held

namespace Run

variable {settings : Settings} {defaults : Defaults} {now : Nat} {finish : Engine}

/-- Without overlaps at most one operation on a toast is under way, and it wishes for what the record
calls for. While none is, the countdown is what the record calls for, or it has ended by itself and
the dismissal is due. -/
theorem apart_keeps (run : Run (fresh settings defaults now) finish) (managed : run.Managed)
    {id : ToastId} (apart : run.overlaps id = false) :
    (wishes id finish.frames = [] ∧ (run.finished id = finish.called id ∨
      (run.finished id = none ∧ finish.isDue id))) ∨
    wishes id finish.frames = [finish.called id] := by
  induction run with
  | start => exact .inl ⟨rfl, .inl rfl⟩
  | @next engine after run event stride ih =>
      obtain ⟨before, sole⟩ := Bool.or_eq_false_iff.mp apart
      have move := stride.move managed.2
      have heard := move.heard (run.orderly managed.1) id
      have called := heard.called
      have pending := heard.pending
      rw [finished]
      cases begun : engine.begins? after id with
      | some wish =>
          -- A wish is begun, so none was pending; it is now, unless it is fulfilled at once.
          have free : wishes id engine.frames = [] := by simpa [begun] using sole
          rw [begun, free] at pending
          rw [begun, Option.getD_some] at called
          cases fulfilled : engine.finishes? event id with
          | none =>
              rw [fulfilled] at pending
              exact .inr (by simpa [called] using pending)
          | some other =>
              rw [fulfilled] at pending
              obtain ⟨rfl, rest⟩ := List.cons.inj pending
              exact .inl ⟨rest, .inl called.symm⟩
      | none =>
          rw [begun, Option.getD_none] at called
          rw [begun, Option.toList_none, List.nil_append] at pending
          cases fulfilled : engine.finishes? event id with
          | some wish =>
              -- The one pending wish is fulfilled.
              rw [fulfilled] at pending
              rcases ih managed.1 before with ⟨free, _⟩ | one
              · rw [free] at pending
                cases pending
              · rw [one] at pending
                obtain ⟨rfl, rest⟩ := List.cons.inj pending
                exact .inl ⟨rest, .inl called.symm⟩
          | none =>
              rw [fulfilled, Option.toList_none, List.nil_append] at pending
              rw [pending, called]
              rcases ih managed.1 before with ⟨free, settled⟩ | one
              · refine .inl ⟨free, ?_⟩
                by_cases ended : (engine.countdowns.has id && !after.countdowns.has id) = true
                · rw [if_pos ended]
                  obtain ⟨held, gone⟩ := by simpa using ended
                  rcases move.ended fulfilled held gone with due | uncalled
                  · exact .inr ⟨rfl, due⟩
                  · exact .inl (called ▸ uncalled.symm)
                · rw [if_neg ended]
                  rcases settled with same | ⟨none, due⟩
                  · exact .inl same
                  · rcases move.due_kept due with later | uncalled
                    · exact .inr ⟨none, later⟩
                    · exact .inl (none.trans (called ▸ uncalled.symm))
              · exact .inr one

theorem in_step_iff (run : Run (fresh settings defaults now) finish) (managed : run.Managed)
    (id : ToastId) : run.InStep id ↔ run.begun id = run.finished id := by
  obtain ⟨held, delay⟩ := run.armed_finished managed id
  have called := run.called_begun managed id
  constructor
  · rintro ⟨step, same⟩
    rw [called] at step same
    by_cases armed : finish.countdowns.has id = true
    · rw [← same armed, delay armed]
    · have unfinished : run.finished id = none := by
        simpa using fun some => armed (held.mpr some)
      have unbegun : run.begun id = none := by
        simpa using fun some => armed (step.mpr some)
      rw [unfinished, unbegun]
  · intro same
    constructor
    · rw [called, same]
      exact held
    · intro armed
      rw [called, same, delay armed]

theorem in_step_of_apart (run : Run (fresh settings defaults now) finish) (managed : run.Managed)
    (rest : finish.AtRest) {id : ToastId} (apart : run.overlaps id = false) : run.InStep id := by
  rw [in_step_iff run managed, ← run.called_begun managed]
  have free : wishes id finish.frames = [] :=
    List.filterMap_eq_nil_iff.mpr fun frame member => Frame.asks?_of_isOutside (rest frame member) id
  rcases run.apart_keeps managed apart with ⟨_, same | ⟨_, ids, member, _⟩⟩ | pending
  · exact same.symm
  · cases rest _ member
  · rw [free] at pending
    cases pending

/-- A toast and its countdown are in step exactly when the operation on the toast that was begun last
and the one that was finished last wish for the same. So they are at rest, unless an operation on the
toast was begun while another one on it was under way. -/
theorem countdown_in_step_exact (run : Run (fresh settings defaults now) finish)
    (managed : run.Managed) (id : ToastId) :
    (run.InStep id ↔ run.begun id = run.finished id) ∧
      (finish.AtRest → run.overlaps id = false → run.InStep id) :=
  ⟨in_step_iff run managed id, fun rest apart => in_step_of_apart run managed rest apart⟩

def plainShowing : Σ finish, Run (fresh {} {} 0) finish :=
  (Run.start.extend? [.request (.present { id := some (.named "x") }), .proceed, .proceed, .handBack,
    .pass 1000, .request .pause, .handBack]).get rfl

theorem plain_showing_in_step :
    plainShowing.2.Managed ∧ plainShowing.1.AtRest ∧ plainShowing.2.InStep (.named "x") := by
  have exactly := countdown_in_step_exact plainShowing.2 (by decide) (.named "x")
  exact ⟨by decide, by decide, exactly.2 (by decide) (by decide)⟩

/-- A toast is shown to a listener that dismisses it as soon as it hears of it. -/
def hastyDismissal : Σ finish, Run (fresh {} {} 0) finish :=
  (Run.start.extend? [.request (.subscribe ⟨0⟩), .handBack,
    .request (.present { id := some (.named "x") }), .proceed,
    .request (.dismiss (.named "x")), .proceed, .handBack, .proceed, .proceed, .proceed, .proceed,
    .handBack, .handBack, .proceed, .proceed, .handBack]).get rfl

/-- The showing finishes last and arms the countdown of a toast that is on its way out. -/
theorem hasty_dismissal_out_of_step :
    hastyDismissal.2.Managed ∧ hastyDismissal.1.AtRest ∧
      hastyDismissal.1.countdowns.has (.named "x") = true ∧
      (hastyDismissal.1.get? (.named "x")).map (·.exiting) = some true ∧
      ¬ hastyDismissal.2.InStep (.named "x") := by
  decide

end Run

end Engine

end Toasts

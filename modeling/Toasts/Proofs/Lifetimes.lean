import Toasts.Proofs.Appointments
import Toasts.Proofs.Partings
import Toasts.Proofs.Passive

/-!
The lifetime of a record. A record of some lifespan has, at any rest, as much of it left as has not
passed without a pause since its creation or its latest revision, and what is left of its countdown
is just that. For this it suffices that operations on the toast do not overlap. If moreover listeners
and callbacks ask for nothing, a countdown dismisses a record only when nothing is left, and as soon
as every wait that is due has been taken up, no record is left with nothing.
-/

namespace Toasts

namespace Engine

namespace Run

variable {start finish : Engine}

/-- The milliseconds without a pause since the record under an identity was created or revised. -/
def age (id : ToastId) {finish : Engine} : Run start finish → Nat
  | .start => 0
  | @Run.next _ engine after run _ _ =>
      if (after.get? id).map (·.edition) = (engine.get? id).map (·.edition) then
        run.age id + engine.elapsed after
      else 0

/-- What is left of the lifespan of the live record under an identity, if it has one. -/
def lifetime? (run : Run start finish) (id : ToastId) : Option Span :=
  (finish.called id).map (·.after (run.age id * nanosPerMilli))

theorem age_next_same {engine after : Engine} {event : Event} (run : Run start engine)
    (stride : Stride engine event after) {id : ToastId} (same : SameEdition engine after id) :
    (run.next event stride).age id = run.age id + engine.elapsed after := by
  rw [age]
  exact if_pos same

theorem age_next_new {engine after : Engine} {event : Event} (run : Run start engine)
    (stride : Stride engine event after) {id : ToastId} (new : ¬ SameEdition engine after id) :
    (run.next event stride).age id = 0 := by
  rw [age]
  exact if_neg new

end Run

theorem Stride.elapsed_zero {engine after : Engine} {event : Event}
    (stride : Stride engine event after) (managed : event.isManaged = true)
    (busy : engine.frames ≠ []) : engine.elapsed after = 0 := by
  refine Engine.elapsed_zero ((stride.move managed).now fun moment same => ?_)
  subst same
  cases stride with
  | pass moment idle later => exact busy idle

theorem busy_of_wishes {engine : Engine} {id : ToastId} (pending : wishes id engine.frames ≠ []) :
    engine.frames ≠ [] := by
  intro idle
  rw [idle] at pending
  exact pending rfl

namespace Run

variable {settings : Settings} {defaults : Defaults} {now : Nat}
variable {start engine after finish : Engine} {event : Event} {id : ToastId}

/-- A countdown is begun at the age of no time, and from then on serves as the record ages. -/
structure Serves (run : Run start finish) (id : ToastId) : Prop where
  young : ∀ delay, some delay ∈ wishes id finish.frames → run.age id = 0
  serves : wishes id finish.frames = [] → finish.countdowns.has id = true →
    run.served id = run.age id

theorem serves_begun {run : Run start engine} (stride : Stride engine event after)
    (managed : event.isManaged = true) (heard : Heard engine event after id)
    (free : wishes id engine.frames = []) {wish : Option Span}
    (begun : engine.begins? after id = some wish) : (run.next event stride).Serves id := by
  have has := (stride.move managed).has id
  have pending := heard.pending
  rw [begun, free] at pending
  have new (delay : Span) (wished : wish = some delay) : (run.next event stride).age id = 0 :=
    age_next_new run stride (heard.new delay (wished ▸ begun))
  cases finished : engine.finishes? event id with
  | none =>
      have sole : wishes id after.frames = [wish] := by simpa [finished] using pending
      constructor
      · intro delay member
        rw [sole] at member
        exact new delay (List.mem_singleton.mp member).symm
      · intro none
        rw [sole] at none
        cases none
  | some other =>
      rw [finished] at pending has
      obtain ⟨rfl, none⟩ : other = wish ∧ wishes id after.frames = [] := by simpa using pending
      constructor
      · intro delay member
        rw [none] at member
        cases member
      · intro _ held
        rw [has] at held
        obtain ⟨delay, rfl⟩ := Option.isSome_iff_exists.mp held
        rw [new delay rfl, served, finished]

theorem age_stays {run : Run start engine} (stride : Stride engine event after)
    (managed : event.isManaged = true) (young : run.age id = 0) (busy : engine.frames ≠ []) :
    (run.next event stride).age id = 0 := by
  by_cases same : SameEdition engine after id
  · rw [age_next_same run stride same, young, stride.elapsed_zero managed busy]
  · exact age_next_new run stride same

theorem Serves.finished {run : Run start engine} (before : run.Serves id)
    (stride : Stride engine event after) (managed : event.isManaged = true) {wish : Option Span}
    (shape : wishes id engine.frames = [wish]) (none : wishes id after.frames = [])
    (fulfilled : engine.finishes? event id = some wish) : (run.next event stride).Serves id := by
  have has := (stride.move managed).has id
  rw [fulfilled] at has
  constructor
  · intro delay member
    rw [none] at member
    cases member
  · intro _ held
    rw [has] at held
    obtain ⟨delay, rfl⟩ := Option.isSome_iff_exists.mp held
    have newborn := before.young delay (by rw [shape]; exact List.mem_cons_self)
    rw [age_stays stride managed newborn (busy_of_wishes (by rw [shape]; simp)), served, fulfilled]

theorem age_served (run : Run (fresh settings defaults now) finish) (managed : run.Managed)
    {id : ToastId} (apart : run.overlaps id = false) : run.Serves id := by
  induction run with
  | start => exact ⟨fun _ _ => rfl, fun _ _ => rfl⟩
  | @next engine after run event stride ih =>
      obtain ⟨before, sole⟩ := Bool.or_eq_false_iff.mp apart
      have has := (stride.move managed.2).has id
      have heard := (stride.move managed.2).heard (run.orderly managed.1) id
      have earlier := ih managed.1 before
      -- Either an operation is begun, or one is finished, or the wishes stay as they are.
      cases begun : engine.begins? after id with
      | some wish =>
          exact serves_begun stride managed.2 heard (by simpa [begun] using sole) begun
      | none =>
          have pending := heard.pending
          rw [begun, Option.toList_none, List.nil_append] at pending
          cases finished : engine.finishes? event id with
          | some wish =>
              rw [finished] at pending
              have shape : wishes id engine.frames = wish :: wishes id after.frames := by
                simpa using pending.symm
              rcases run.apart_keeps managed.1 before with ⟨free, _⟩ | one
              · rw [free] at shape
                cases shape
              · obtain ⟨_, none⟩ := List.cons.inj (one.symm.trans shape)
                rw [← none] at shape
                exact earlier.finished stride managed.2 shape none.symm finished
          | none =>
              rw [finished] at has
              rw [finished, Option.toList_none, List.nil_append] at pending
              constructor
              · intro delay member
                rw [pending] at member
                exact age_stays stride managed.2 (earlier.young delay member)
                  (busy_of_wishes (List.ne_nil_of_mem member))
              · intro free held
                rw [pending] at free
                rcases heard.same begun with same | uncalled
                · rw [age_next_same run stride same, served, finished,
                    earlier.serves free (has held)]
                · -- A countdown that is held belongs to a record that calls for one.
                  obtain ⟨armed, _⟩ := run.armed_finished managed.1 id
                  have wished := armed.mp (has held)
                  rcases run.apart_keeps managed.1 before with ⟨_, same | ⟨gone, _⟩⟩ | one
                  · rw [same, uncalled] at wished
                    cases wished
                  · rw [gone] at wished
                    cases wished
                  · rw [free] at one
                    cases one

/-- At rest what is left of a countdown is what is left of the record's lifespan. -/
theorem remaining?_lifetime (run : Run (fresh settings defaults now) finish)
    (managed : run.Managed) {id : ToastId} (apart : run.overlaps id = false)
    (rest : finish.AtRest) : finish.remaining? id = run.lifetime? id := by
  have step := in_step_of_apart run managed rest apart
  have free : wishes id finish.frames = [] :=
    List.filterMap_eq_nil_iff.mpr fun frame member => Frame.asks?_of_isOutside (rest frame member) id
  cases held : finish.countdowns.has id with
  | true =>
      rw [run.remaining?_served managed held, step.delay held,
        (run.age_served managed apart).serves free held, lifetime?]
  | false =>
      have absent : finish.remaining? id = none := by
        rw [← Option.not_isSome_iff_eq_none, Engine.remaining?, Countdowns.isSome_remaining?, held]
        simp
      have uncalled : finish.called id = none := by
        rw [← Option.not_isSome_iff_eq_none, ← step.held, held]
        simp
      rw [absent, lifetime?, uncalled]
      rfl

theorem lifetime?_next {engine after : Engine} {event : Event}
    (run : Run (fresh settings defaults now) engine) (stride : Stride engine event after)
    {id : ToastId} (look : after.get? id = engine.get? id) (timeless : engine.elapsed after = 0) :
    (run.next event stride).lifetime? id = run.lifetime? id := by
  have same : SameEdition engine after id := by rw [SameEdition, look]
  rw [lifetime?, lifetime?, age_next_same run stride same, timeless, called, called, look]
  rfl

/-- Where listeners and callbacks ask for nothing, a dismissal is due only for a record that has
nothing left of its lifespan, or that is on its way out already. -/
theorem due_spent (run : Run (fresh settings defaults now) finish) (passive : run.Passive)
    {id : ToastId} (due : finish.isDue id) :
    run.lifetime? id = some Span.zero ∨
      ∀ toast, finish.get? id = some toast → toast.exiting = true := by
  induction run with
  | start =>
      obtain ⟨ids, member, _⟩ := due
      cases member
  | @next engine after run event stride ih =>
      have quiet := passive.2
      have move := stride.move quiet.1
      cases request : event.isRequest with
      | false =>
          have before := move.restacks.due_old request due
          have busy : engine.frames ≠ [] := by
            obtain ⟨_, member, _⟩ := before
            exact List.ne_nil_of_mem member
          rcases move.inward request busy id with look | ⟨toast, _, leaves⟩
          · rw [lifetime?_next run stride look (stride.elapsed_zero quiet.1 busy), look]
            exact ih passive.1 before
          · refine .inr fun gone found => ?_
            obtain rfl := Option.some.inj (leaves.symm.trans found)
            rfl
      | true =>
          have rest := quiet.2 request
          have managed := Passive.managed passive.1
          obtain ⟨ids, member, listed⟩ := due
          -- At rest no dismissal is due, so this one comes from the resumption that is requested.
          cases move.restacks with
          | undue popped pushed below before frames undue =>
              rw [frames] at member
              rcases List.mem_append.mp member with new | stays
              · cases undue _ new
              · cases rest _ (before ▸ List.mem_append_right _ stays)
          | drops first others pushed below top frames undue =>
              cases rest _ (top ▸ List.mem_cons_self)
          | resumes answer _ frames store =>
              rw [frames] at member
              simp only [List.mem_cons, Frame.due.injEq, reduceCtorEq, false_or] at member
              rcases member with rfl | below
              · obtain ⟨countdown, among, rfl⟩ := List.mem_map.mp listed
                obtain ⟨paused, present, empty⟩ := Countdowns.of_mem_due among
                have watched : OnWatch False engine := run.onWatch managed False.elim
                have found := Countdowns.get?_of_mem watched.distinct present
                have spent : engine.remaining? countdown.key = some Span.zero := by
                  simp [Engine.remaining?, Countdowns.remaining?, found, paused,
                    (Span.isZero_iff _).mp empty]
                have timeless := Engine.elapsed_zero (move.now fun moment same => by
                  rw [same] at request
                  cases request)
                have look := @get?_congr engine after (congrArg Store.toasts store) countdown.key
                rw [lifetime?_next run stride look timeless,
                  ← remaining?_lifetime run managed (Passive.apart passive.1 _) rest]
                exact .inl spent
              · cases rest _ below

end Run

/-- Of its own accord the engine lets a record begin its exit only after a resumption that left
nothing of its countdown, or when a wait for its countdown is over. -/
theorem Move.departs {engine after : Engine} {event : Event} (move : Move engine event after)
    (own : event.isRequest = false) (orderly : Orderly engine) {id : ToastId} {toast gone : Toast}
    (found : engine.get? id = some toast) (live : toast.exiting = false)
    (departed : after.get? id = some gone) (exiting : gone.exiting = true) :
    engine.isDue id ∨ (engine.frames = [] ∧ ∃ agenda generation countdowns countdown,
      engine.agenda.TakesUp agenda (some (.expire id generation)) ∧
      engine.countdowns.expire? id generation = some (countdowns, countdown)) := by
  cases move.parts orderly with
  | quiet quiet numbers owes =>
      rw [quiet.stays found live departed] at exiting
      cases exiting
  | leaves before dismissed cause leaves store numbers origin depth owes =>
      by_cases hit : dismissed.id = id
      · subst hit
        cases origin with
        | request asked =>
            rw [own] at asked
            cases asked
        | due ids rest _ top => exact .inl ⟨dismissed.id :: ids, by simp [top], by simp⟩
        | expiry place agenda generation countdowns countdown polled idle taken expired left =>
            exact .inr ⟨idle, agenda, generation, countdowns, countdown, taken, expired⟩
      · rw [(leaves.look store).2 id, if_neg hit, found] at departed
        obtain rfl := Option.some.inj departed
        rw [live] at exiting
        cases exiting

namespace Run

variable {settings : Settings} {defaults : Defaults} {now : Nat} {finish : Engine}

theorem departs_spent (run : Run (fresh settings defaults now) finish) (passive : run.Passive)
    {event : Event} {after : Engine} (stride : Stride finish event after)
    (own : event.isRequest = false) {id : ToastId} {toast gone : Toast}
    (found : finish.get? id = some toast) (live : toast.exiting = false)
    (departed : after.get? id = some gone) (exiting : gone.exiting = true) :
    run.lifetime? id = some Span.zero := by
  have managed := passive.managed
  have kept : event.isManaged = true := by
    cases event <;> first | rfl | cases own
  rcases (stride.move kept).departs own (run.orderly managed) found live departed exiting with
    due | ⟨idle, agenda, generation, countdowns, countdown, taken, expired⟩
  · rcases run.due_spent passive due with spent | leaving
    · exact spent
    · rw [leaving toast found] at live
      cases live
  · have watched : OnWatch False finish := run.onWatch managed False.elim
    rw [← remaining?_lifetime run managed (passive.apart id) (by simp [AtRest, idle])]
    exact Watched.expired watched taken rfl expired

/-- A toast is shown for one second, its countdown pauses for two, and one more second passes. -/
def pausedShowing : Σ finish, Run (fresh {} {} 0) finish :=
  (Run.start.extend? [.request (.present { id := some (.named "x") }), .proceed, .proceed, .handBack,
    .poll 0, .pass 1000, .request .pause, .handBack, .pass 3000, .request .resume, .proceed,
    .handBack, .poll 0, .pass 4000]).get rfl

def fullShowing : Σ finish, Run (fresh {} {} 0) finish :=
  (Run.start.extend? [.request (.present { id := some (.named "x") }), .proceed, .proceed, .handBack,
    .poll 0, .pass 6000]).get rfl

/-- A toast is shown, and the wait for its countdown begins one second late. -/
def lateShowing : Σ finish, Run (fresh {} {} 0) finish :=
  (Run.start.extend? [.request (.present { id := some (.named "x") }), .proceed, .proceed, .handBack,
    .pass 1000, .poll 0, .pass 5000]).get rfl

/-- At its sixth second the wait that began late is the one that is overdue. -/
example : (lateShowing.2.next (.pass 6000) (follow?_stride rfl)).overdue =
    [(.expire (.named "x") 1, 6000)] := by decide

end Run

end Engine

end Toasts

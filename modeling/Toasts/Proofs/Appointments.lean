import Toasts.Proofs.Served

/-!
Waits that are asked for. Whatever makes a countdown run asks at that moment for a wait that is due
when nothing of the countdown is left. The task of it may begin late, and the wait is late then; what
is due is told from the asking alone. Where no wait is overdue, something is left of every countdown
that runs.
-/

namespace Toasts

theorem Deed.eq_expire {deed : Deed} {id : ToastId} {generation : Nat}
    (kind : deed.vigil? = some (id, generation)) : deed = .expire id generation := by
  cases deed with
  | expire other number =>
      obtain ⟨rfl, rfl⟩ := Prod.mk.inj (Option.some.inj kind)
      rfl
  | remove other edition => cases kind
  | errand ticket => cases kind

namespace Engine

variable {engine after : Engine} {event : Event}

/-- Whether a deed is the end of the wait for a countdown that runs. A wait is called off when its
countdown is stopped, paused or started anew. -/
def awaits (engine : Engine) (deed : Deed) : Bool :=
  !engine.countdowns.paused && engine.countdowns.entries.any fun countdown =>
    deed.vigil? = some (countdown.key, countdown.generation)

/-- Each countdown that runs did so before, or there is a wait asked for that is due when nothing of
it is left. -/
def Appoints (engine after : Engine) : Prop :=
  after.countdowns.paused = false → ∀ countdown ∈ after.countdowns.entries,
    (countdown ∈ engine.countdowns.entries ∧ engine.countdowns.paused = false) ∨
      (.expire countdown.key countdown.generation, countdown.ending) ∈
        engine.agenda.asked after.agenda

theorem appoints_of_fewer
    (fewer : after.countdowns.entries ⊆ engine.countdowns.entries)
    (paused : after.countdowns.paused = engine.countdowns.paused) : Appoints engine after :=
  fun running _ member => .inl ⟨fewer member, paused ▸ running⟩

theorem appoints_of_eq (same : after.countdowns = engine.countdowns) : Appoints engine after :=
  appoints_of_fewer (by rw [same]; exact List.Subset.refl _) (by rw [same])

/-- Countdowns that are renewed have their waits asked for: each is due when nothing is left. -/
theorem appoints_of_renewal {vigils : List (Vigil ToastId)}
    (renewal : engine.countdowns.Renewal after.countdowns engine.now vigils)
    (agenda : after.agenda = keepVigils engine.agenda vigils) : Appoints engine after := by
  have asked : engine.agenda.asked after.agenda = vigils.map fun vigil =>
      (.expire vigil.key vigil.generation, engine.agenda.deadline vigil.delay) := by
    rw [agenda]
    exact Agenda.asked_keep
  intro running countdown member
  rcases renewal.entries countdown member with ⟨old, same⟩ | ⟨begun, _, _, own⟩
  · exact .inl ⟨old, same.trans running⟩
  · rw [asked, Countdown.ending, begun]
    exact .inr (List.mem_map_of_mem (own running))

theorem Effect.appoints (effect : Effect engine after) : Appoints engine after := by
  cases effect with
  | calm pushed outside steady toasts version countdowns agenda frames =>
      exact appoints_of_eq countdowns
  | shows shows =>
      cases shows with
      | revise toast revised options number found live made new publishes =>
          exact appoints_of_eq publishes.countdowns
      | append toast options number made new publishes => exact appoints_of_eq publishes.countdowns
  | leaves toast leaves => exact appoints_of_eq leaves.publishes.countdowns
  | clears position publishes => exact appoints_of_eq publishes.countdowns
  | spares position spared same => exact appoints_of_eq (by rw [same]; rfl)
  | paints toast painted found made publishes => exact appoints_of_eq publishes.countdowns
  | pauses same =>
      subst same
      intro running
      cases paused : engine.countdowns.paused <;> simp [Countdowns.pause, paused] at running
  | resumes same =>
      subst same
      exact appoints_of_renewal (engine.countdowns.resume_renewal engine.now) rfl

theorem arm_appoints (engine : Engine) (id : ToastId) (lifespan : Lifespan) :
    Appoints engine (engine.arm id lifespan) := by
  cases wish : lifespan.countdown with
  | none =>
      simp only [arm, wish]
      exact appoints_of_fewer (List.filter_subset_self _) rfl
  | some delay =>
      simp only [arm, wish]
      exact appoints_of_renewal (engine.countdowns.schedule_renewal id delay () engine.now) rfl

theorem disarm_appoints (engine : Engine) (ids : Option (List ToastId)) :
    Appoints engine (engine.disarm ids) := by
  cases ids with
  | none => exact appoints_of_fewer (List.nil_subset _) rfl
  | some ids =>
      obtain ⟨entries, fewer, shape⟩ := Countdowns.cancel_each_shape ids engine.countdowns
      simp only [disarm, shape]
      exact appoints_of_fewer fewer.subset rfl

theorem Move.appoints (move : Move engine event after) : Appoints engine after := by
  have fewer {agenda : Agenda Deed} {id : ToastId} {generation : Nat}
      {countdowns : Countdowns ToastId Unit} {countdown : Countdown ToastId Unit}
      (expired : engine.countdowns.expire? id generation = some (countdowns, countdown)) :
      Appoints engine { engine with agenda, countdowns } := by
    obtain ⟨_, _, _, rfl⟩ := Countdowns.expire?_some expired
    exact appoints_of_fewer (List.filter_subset_self _) rfl
  cases move with
  | request operation after answer turn effect => exact effect.appoints
  | arm id lifespan rest top => exact arm_appoints { engine with frames := rest } id lifespan
  | leave toast cause rest top => exact appoints_of_fewer (List.filter_subset_self _) rfl
  | disarm ids rest top => exact disarm_appoints { engine with frames := rest } ids
  | due toast ids rest after top leaves => exact appoints_of_eq leaves.publishes.countdowns
  | expireGone place agenda id generation countdowns countdown idle taken expired gone =>
      exact fewer expired
  | expire place agenda toast generation countdowns countdown after idle taken expired leaves =>
      have same := leaves.publishes.countdowns
      obtain ⟨_, _, _, rfl⟩ := Countdowns.expire?_some expired
      exact appoints_of_fewer (by rw [same]; exact List.filter_subset_self _) (by rw [same]; rfl)
  | remove place agenda id edition after idle taken publishes =>
      exact appoints_of_eq publishes.countdowns
  | _ => exact appoints_of_eq rfl

namespace Run

variable {settings : Settings} {defaults : Defaults} {now : Nat} {start finish : Engine}

def asked {finish : Engine} : Run start finish → List (Deed × Nat)
  | .start => []
  | @Run.next _ engine after run _ _ => run.asked ++ engine.agenda.asked after.agenda

/-- The waits for countdowns that are due by now and have not been taken up. -/
def overdue (run : Run start finish) : List (Deed × Nat) :=
  run.asked.filter fun (deed, due) =>
    due ≤ finish.now && finish.awaits deed && finish.agenda.works.contains deed

theorem asked_ending (run : Run (fresh settings defaults now) finish) (managed : run.Managed)
    (running : finish.countdowns.paused = false) {countdown : Countdown ToastId Unit}
    (member : countdown ∈ finish.countdowns.entries) :
    (.expire countdown.key countdown.generation, countdown.ending) ∈ run.asked := by
  -- A countdown that is kept keeps its generation and its ending, so its wait is the one it had.
  induction run with
  | start => cases member
  | next run event stride ih =>
      rcases (stride.move managed.2).appoints running countdown member with ⟨old, before⟩ | new
      · exact List.mem_append_left _ (ih managed.1 before old)
      · exact List.mem_append_right _ new

/-- When no wait is overdue, something is left of every countdown that runs. -/
theorem remaining_of_overdue (run : Run (fresh settings defaults now) finish)
    (managed : run.Managed) (kept : run.overdue = []) (running : finish.countdowns.paused = false)
    (id : ToastId) : finish.remaining? id ≠ some Span.zero := by
  intro spent
  have watched : OnWatch False finish := run.onWatch managed False.elim
  obtain ⟨countdown, found, empty⟩ := Option.map_eq_some_iff.mp spent
  rw [running] at empty
  have member := Countdowns.mem_of_get? found
  have due : countdown.ending ≤ finish.now :=
    (Countdown.isZero_left_iff (watched.begun countdown member)).mp ((Span.isZero_iff _).mpr empty)
  -- Its wait has been asked for and is on the agenda, so it would be among those overdue.
  have asked := run.asked_ending managed running member
  obtain ⟨deed, waits, kind⟩ := watched.present running countdown member
  obtain rfl := Deed.eq_expire kind
  have awaited : finish.awaits (.expire countdown.key countdown.generation) = true := by
    rw [awaits, running]
    exact List.any_eq_true.mpr ⟨countdown, member, decide_eq_true rfl⟩
  have listed := List.filter_eq_nil_iff.mp kept _ asked
  simp [due, awaited, waits] at listed

end Run

end Engine

end Toasts

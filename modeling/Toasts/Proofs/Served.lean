import Toasts.Proofs.Vigils
import Toasts.Proofs.Wishes

/-!
Time served. What is left of a toast's countdown is the delay it was started with, less the time that
has passed since then without a pause. This holds in every managed run, whatever listeners do.
-/

namespace Toasts

def Deed.vigil? : Deed → Option (ToastId × Nat)
  | .expire id generation => some (id, generation)
  | _ => none

namespace Engine

/-- The milliseconds of a stride that count for countdowns. -/
def elapsed (engine after : Engine) : Nat :=
  if engine.countdowns.paused then 0 else after.now - engine.now

def OnWatch (prompt : Prop) (engine : Engine) : Prop :=
  Watched Deed.vigil? prompt engine.countdowns engine.agenda

theorem Publishes.onWatch {engine after : Engine} {toasts : List Toast} {rest : List Frame}
    {prompt : Prop} (publishes : Publishes engine after toasts rest)
    (watched : OnWatch prompt engine) : OnWatch prompt after := by
  rw [OnWatch, publishes.countdowns, publishes.agenda]
  exact watched

theorem Effect.onWatch {engine after : Engine} {prompt : Prop} (effect : Effect engine after)
    (watched : OnWatch prompt engine) : OnWatch prompt after := by
  cases effect with
  | calm pushed outside steady toasts version countdowns agenda frames =>
      rw [OnWatch, countdowns]
      rcases agenda with same | ⟨delay, ticket, same⟩
      · rw [same]
        exact watched
      · rw [same]
        exact watched.spawned delay rfl
  | shows shows =>
      cases shows with
      | revise toast revised options number found live made new publishes =>
          exact publishes.onWatch watched
      | append toast options number made new publishes => exact publishes.onWatch watched
  | leaves toast leaves => exact leaves.publishes.onWatch watched
  | clears position publishes => exact publishes.onWatch watched
  | spares position spared same =>
      subst same
      exact watched
  | paints toast painted found made publishes => exact publishes.onWatch watched
  | pauses same =>
      subst same
      exact Watched.paused watched
  | resumes same =>
      subst same
      exact Watched.resumed watched fun _ _ => rfl

theorem arm_onWatch {engine : Engine} {prompt : Prop} (watched : OnWatch prompt engine)
    (id : ToastId) (lifespan : Lifespan) : OnWatch prompt (engine.arm id lifespan) := by
  cases wish : lifespan.countdown with
  | none =>
      simp only [arm, wish]
      exact Watched.thinned watched List.filter_sublist rfl rfl
  | some delay =>
      simp only [arm, wish]
      exact Watched.scheduled watched (fun _ _ => rfl) id delay ()

theorem disarm_onWatch {engine : Engine} {prompt : Prop} (watched : OnWatch prompt engine)
    (ids : Option (List ToastId)) : OnWatch prompt (engine.disarm ids) := by
  cases ids with
  | none => exact Watched.thinned watched (List.nil_sublist _) rfl rfl
  | some ids =>
      obtain ⟨entries, fewer, shape⟩ := Countdowns.cancel_each_shape ids engine.countdowns
      simp only [OnWatch, disarm, shape]
      exact Watched.thinned watched fewer rfl rfl

theorem expired_onWatch {engine : Engine} {prompt : Prop} {agenda : Agenda Deed} {id : ToastId}
    {generation : Nat} {countdowns : Countdowns ToastId Unit} {countdown : Countdown ToastId Unit}
    (watched : OnWatch prompt engine)
    (taken : engine.agenda.TakesUp agenda (some (.expire id generation)))
    (expired : engine.countdowns.expire? id generation = some (countdowns, countdown)) :
    OnWatch prompt { engine with agenda, countdowns } :=
  Watched.ended watched taken rfl expired

theorem Move.onWatch {engine after : Engine} {event : Event} {prompt : Prop}
    (move : Move engine event after)
    (soon : prompt → ∀ moment, event = .pass moment → engine.agenda.AllBegun)
    (watched : OnWatch prompt engine) : OnWatch prompt after := by
  have frameless (frames : List Frame) : OnWatch prompt { engine with frames } := watched
  have foreign {agenda : Agenda Deed} {deed : Deed} (taken : engine.agenda.TakesUp agenda (some deed))
      (kind : deed.vigil? = none) : OnWatch prompt { engine with agenda } := by
    refine Watched.takesUp watched taken fun _ work same countdown _ found => ?_
    obtain rfl := Option.some.inj same
    rw [kind] at found
    cases found
  cases move with
  | request operation after answer turn effect => exact effect.onWatch (frameless _)
  | published version snapshot pending rest top served => exact watched
  | deliver version snapshot listener pending rest top current => exact watched
  | arm id lifespan rest top => exact arm_onWatch (frameless rest) id lifespan
  | leave toast cause rest top => exact Watched.thinned watched List.filter_sublist rfl rfl
  | farewell toast rest top => exact watched
  | exitWindow toast rest top => exact Watched.spawned watched _ rfl
  | disarm ids rest top => exact disarm_onWatch (frameless rest) ids
  | dueDone rest top => exact watched
  | dueGone id ids rest top gone => exact watched
  | due toast ids rest after top leaves => exact leaves.publishes.onWatch (frameless _)
  | handBack frame rest top idle => exact watched
  | waits place agenda idle taken =>
      exact Watched.takesUp watched taken fun _ work same => by cases same
  | stale place agenda deed idle taken gone =>
      cases deed with
      | expire id generation => exact Watched.missed watched taken rfl gone
      | remove id edition => exact foreign taken rfl
      | errand ticket => exact gone.elim
  | expireGone place agenda id generation countdowns countdown idle taken expired gone =>
      exact expired_onWatch watched taken expired
  | expire place agenda toast generation countdowns countdown after idle taken expired leaves =>
      exact leaves.publishes.onWatch (expired_onWatch watched taken expired)
  | remove place agenda id edition after idle taken publishes =>
      exact publishes.onWatch (foreign taken rfl)
  | errand place agenda ticket idle taken => exact foreign taken rfl
  | pass moment idle later => exact Watched.advance watched later fun quick => soon quick moment rfl

theorem Publishes.now {engine after : Engine} {toasts : List Toast} {rest : List Frame}
    (publishes : Publishes engine after toasts rest) : after.now = engine.now := by
  rw [Engine.now, publishes.agenda, Engine.now]

theorem keepVigils_now (agenda : Agenda Deed) (vigils : List (Vigil ToastId)) :
    (keepVigils agenda vigils).now = agenda.now :=
  Agenda.keep_now

theorem Effect.now {engine after : Engine} (effect : Effect engine after) :
    after.now = engine.now := by
  cases effect with
  | calm pushed outside steady toasts version countdowns agenda frames =>
      rcases agenda with same | ⟨delay, ticket, same⟩ <;> rw [Engine.now, same] <;> rfl
  | shows shows =>
      cases shows with
      | revise toast revised options number found live made new publishes => exact publishes.now
      | append toast options number made new publishes => exact publishes.now
  | leaves toast leaves => exact leaves.publishes.now
  | clears position publishes => exact publishes.now
  | spares position spared same =>
      subst same
      rfl
  | paints toast painted found made publishes => exact publishes.now
  | pauses same =>
      subst same
      rfl
  | resumes same =>
      subst same
      exact keepVigils_now _ _

theorem arm_now (engine : Engine) (id : ToastId) (lifespan : Lifespan) :
    (engine.arm id lifespan).now = engine.now := by
  simp only [arm]
  split
  next => rfl
  next => exact keepVigils_now _ _

theorem Move.now {engine after : Engine} {event : Event} (move : Move engine event after)
    (waits : ∀ moment, event ≠ .pass moment) : after.now = engine.now := by
  cases move with
  | request operation after answer turn effect => exact effect.now
  | published version snapshot pending rest top served => rfl
  | deliver version snapshot listener pending rest top current => rfl
  | arm id lifespan rest top => exact arm_now { engine with frames := rest } id lifespan
  | leave toast cause rest top => rfl
  | farewell toast rest top => rfl
  | exitWindow toast rest top => rfl
  | disarm ids rest top => cases ids <;> rfl
  | dueDone rest top => rfl
  | dueGone id ids rest top gone => rfl
  | due toast ids rest after top leaves => exact leaves.publishes.now
  | handBack frame rest top idle => rfl
  | waits place agenda idle taken => exact taken.now
  | stale place agenda deed idle taken gone => exact taken.now
  | expireGone place agenda id generation countdowns countdown idle taken expired gone =>
      exact taken.now
  | expire place agenda toast generation countdowns countdown after idle taken expired leaves =>
      exact leaves.publishes.now.trans taken.now
  | remove place agenda id edition after idle taken publishes =>
      exact publishes.now.trans taken.now
  | errand place agenda ticket idle taken => exact taken.now
  | pass moment idle later => exact absurd rfl (waits moment)

theorem elapsed_zero {engine after : Engine} (same : after.now = engine.now) :
    engine.elapsed after = 0 := by
  simp [elapsed, same]

theorem Publishes.remaining? {engine after : Engine} {toasts : List Toast} {rest : List Frame}
    (publishes : Publishes engine after toasts rest) (id : ToastId) :
    after.remaining? id = engine.remaining? id := by
  rw [Engine.remaining?, publishes.countdowns, publishes.now, Engine.remaining?]

theorem Effect.remaining? {engine after : Engine} (effect : Effect engine after)
    (distinct : engine.countdowns.Distinct) {id : ToastId}
    (held : after.countdowns.has id = true) : after.remaining? id = engine.remaining? id := by
  have now := effect.now
  cases effect with
  | calm pushed outside steady toasts version countdowns agenda frames =>
      rw [Engine.remaining?, countdowns, now, Engine.remaining?]
  | shows shows =>
      cases shows with
      | revise toast revised options number found live made new publishes =>
          exact publishes.remaining? id
      | append toast options number made new publishes => exact publishes.remaining? id
  | leaves toast leaves => exact leaves.publishes.remaining? id
  | clears position publishes => exact publishes.remaining? id
  | spares position spared same =>
      subst same
      rfl
  | paints toast painted found made publishes => exact publishes.remaining? id
  | pauses same =>
      subst same
      exact Countdowns.remaining?_pause engine.countdowns id engine.now
  | resumes same =>
      subst same
      rw [Engine.remaining?, now]
      exact Countdowns.remaining?_resume distinct engine.now held

theorem remaining?_cancel (engine : Engine) {id other : ToastId} (apart : id ≠ other) :
    { engine with countdowns := engine.countdowns.cancel other }.remaining? id =
      engine.remaining? id := by
  have kept := Countdowns.remaining?_cancel engine.countdowns other id engine.now
  rwa [if_neg apart] at kept

theorem arm_remaining? (engine : Engine) (id other : ToastId) (lifespan : Lifespan) :
    (engine.arm other lifespan).remaining? id =
      if id = other then lifespan.countdown else engine.remaining? id := by
  rw [remaining?, arm_now]
  cases wish : lifespan.countdown with
  | none =>
      simp only [arm, wish]
      exact Countdowns.remaining?_cancel engine.countdowns other id engine.now
  | some delay =>
      simp only [arm, wish]
      exact Countdowns.remaining?_schedule engine.countdowns other id delay () engine.now
        (Lifespan.isZero_of_countdown wish)

theorem disarm_remaining? {engine : Engine} {ids : Option (List ToastId)} {id : ToastId}
    (held : (engine.disarm ids).countdowns.has id = true) :
    (engine.disarm ids).remaining? id = engine.remaining? id := by
  cases ids with
  | none => cases held
  | some ids =>
      obtain ⟨entries, _, shape⟩ := Countdowns.cancel_each_shape ids engine.countdowns
      have apart : id ∉ ids := by
        rw [disarm_has] at held
        simpa using (Bool.and_eq_true_iff.mp held).1
      have same : (ids.foldl Countdowns.cancel engine.countdowns).get? id =
          engine.countdowns.get? id := by
        rw [Countdowns.get?_cancel_each, if_neg apart]
      have paused : (ids.foldl Countdowns.cancel engine.countdowns).paused =
          engine.countdowns.paused := by rw [shape]
      simp only [disarm, remaining?, Countdowns.remaining?, same, paused]
      rfl

/-- Unless a wish for a countdown is fulfilled, a stride takes from it the time that counts. -/
theorem Move.remaining? {engine after : Engine} {event : Event} {prompt : Prop}
    (move : Move engine event after) (watched : OnWatch prompt engine) {id : ToastId}
    (unfinished : engine.finishes? event id = none) (held : after.countdowns.has id = true) :
    after.remaining? id = (engine.remaining? id).map (·.after (engine.elapsed after * nanosPerMilli)) := by
  -- Only the passing of time takes anything away; every other stride is timeless.
  have timeless (now : after.now = engine.now) (same : after.remaining? id = engine.remaining? id) :
      after.remaining? id =
        (engine.remaining? id).map (·.after (engine.elapsed after * nanosPerMilli)) := by
    simp [elapsed_zero now, same]
  have now (waits : ∀ moment, event ≠ .pass moment) := move.now waits
  cases move with
  | request operation after answer turn effect =>
      exact timeless effect.now (effect.remaining? watched.distinct held)
  | published version snapshot pending rest top served => exact timeless rfl rfl
  | deliver version snapshot listener pending rest top current => exact timeless rfl rfl
  | arm other lifespan rest top =>
      have apart : id ≠ other := fun same => by
        simp [finishes?_proceed top, Frame.asks?, same] at unfinished
      refine timeless (arm_now _ _ _) ?_
      rw [arm_remaining?, if_neg apart]
      rfl
  | leave toast cause rest top =>
      have apart : id ≠ toast.id := fun same => by
        simp [finishes?_proceed top, Frame.asks?, same] at unfinished
      exact timeless rfl (remaining?_cancel _ apart)
  | farewell toast rest top => exact timeless rfl rfl
  | exitWindow toast rest top => exact timeless rfl rfl
  | disarm ids rest top => exact timeless (now fun _ => by simp) (disarm_remaining? held)
  | dueDone rest top => exact timeless rfl rfl
  | dueGone other ids rest top gone => exact timeless rfl rfl
  | due toast ids rest after top leaves =>
      exact timeless leaves.publishes.now (leaves.publishes.remaining? id)
  | handBack frame rest top idle => exact timeless rfl rfl
  | waits place agenda idle taken =>
      refine timeless taken.now ?_
      simp only [Engine.remaining?, Engine.now, taken.now]
  | stale place agenda deed idle taken gone =>
      refine timeless taken.now ?_
      simp only [Engine.remaining?, Engine.now, taken.now]
  | expireGone place agenda other generation countdowns countdown idle taken expired gone =>
      obtain ⟨_, _, _, rfl⟩ := Countdowns.expire?_some expired
      have apart : id ≠ other := fun same => by simp [same, Countdowns.has_cancel] at held
      refine timeless taken.now ?_
      have kept := remaining?_cancel engine apart
      simpa only [Engine.remaining?, Engine.now, taken.now] using kept
  | expire place agenda toast generation countdowns countdown after idle taken expired leaves =>
      obtain ⟨_, _, _, rfl⟩ := Countdowns.expire?_some expired
      have apart : id ≠ toast.id := fun same => by
        simp [same, leaves.publishes.countdowns, Countdowns.has_cancel] at held
      refine timeless (leaves.publishes.now.trans taken.now) ?_
      rw [leaves.publishes.remaining?]
      have kept := remaining?_cancel engine apart
      simpa only [Engine.remaining?, Engine.now, taken.now] using kept
  | remove place agenda other edition after idle taken publishes =>
      refine timeless (publishes.now.trans taken.now) ?_
      rw [publishes.remaining?]
      simp only [Engine.remaining?, Engine.now, taken.now]
  | errand place agenda ticket idle taken =>
      refine timeless taken.now ?_
      simp only [Engine.remaining?, Engine.now, taken.now]
  | pass moment idle later =>
      exact Countdowns.remaining?_later engine.countdowns id watched.begun later

theorem finishes?_some {engine : Engine} {event : Event} {id : ToastId} {delay : Span}
    (finished : engine.finishes? event id = some (some delay)) :
    event = .proceed ∧ ∃ lifespan rest, engine.frames = .arm id lifespan :: rest ∧
      lifespan.countdown = some delay := by
  cases event with
  | proceed =>
      cases top : engine.frames with
      | nil => simp [finishes?, top] at finished
      | cons frame rest =>
          rw [finishes?_proceed top] at finished
          cases frame <;> simp only [Frame.asks?, reduceCtorEq] at finished
          case arm other lifespan =>
              split at finished
              next same => exact ⟨rfl, lifespan, rest, by rw [same], Option.some.inj finished⟩
              next => cases finished
          case leave toast cause => split at finished <;> cases finished
          case disarm ids =>
              cases ids with
              | none => cases finished
              | some ids =>
                  dsimp only at finished
                  split at finished <;> cases finished
  | request operation => cases finished
  | handBack => cases finished
  | poll place => cases finished
  | pass moment => cases finished

theorem Stride.remaining?_finished {engine after : Engine} {event : Event} {id : ToastId}
    {delay : Span} (stride : Stride engine event after)
    (finished : engine.finishes? event id = some (some delay)) :
    after.remaining? id = some delay := by
  obtain ⟨rfl, lifespan, rest, top, wish⟩ := finishes?_some finished
  cases stride with
  | proceed frame rest' top' work =>
      have shape : engine.step = { engine with frames := rest }.arm id lifespan := by
        simp [step, top, Engine.work]
      rw [shape, arm_remaining?, if_pos rfl, wish]

namespace Run

variable {settings : Settings} {defaults : Defaults} {now : Nat} {start finish : Engine}

/-- The milliseconds without a pause since the countdown of a toast was last started. -/
def served (id : ToastId) {finish : Engine} : Run start finish → Nat
  | .start => 0
  | @Run.next _ engine after run event _ =>
      match engine.finishes? event id with
      | some (some _) => 0
      | _ => run.served id + engine.elapsed after

/-- Time passes only when every task on the agenda has begun to wait. -/
def Prompt (run : Run start finish) : Prop :=
  run.All fun engine event => event.isPass = true → engine.agenda.AllBegun

instance (run : Run start finish) : Decidable run.Prompt :=
  inferInstanceAs (Decidable (run.All _))

theorem onWatch (run : Run (fresh settings defaults now) finish) (managed : run.Managed)
    {prompt : Prop} (soon : prompt → run.Prompt) : OnWatch prompt finish := by
  induction run with
  | start => exact Watched.initial _ _ _
  | next run event stride ih =>
      refine (stride.move managed.2).onWatch (fun quick moment same => ?_)
        (ih managed.1 fun quick => (soon quick).1)
      exact (soon quick).2 (by rw [same]; rfl)

theorem remaining?_served (run : Run (fresh settings defaults now) finish) (managed : run.Managed)
    {id : ToastId} (held : finish.countdowns.has id = true) :
    finish.remaining? id =
      (run.armedWith id).map (·.after (run.served id * nanosPerMilli)) := by
  induction run with
  | start => cases held
  | @next engine after run event stride ih =>
      have move := stride.move managed.2
      have has := move.has id
      rw [armedWith, served]
      cases finished : engine.finishes? event id with
      | none =>
          rw [finished] at has
          have watched : OnWatch False engine := run.onWatch managed.1 False.elim
          rw [move.remaining? watched finished held, ih managed.1 (has held), Option.map_map]
          congr 1
          funext delay
          rw [Function.comp_apply, Span.after_after, Nat.add_mul]
      | some wish =>
          cases wish with
          | none =>
              rw [finished] at has
              rw [has] at held
              cases held
          | some delay =>
              rw [stride.remaining?_finished finished]
              simp

end Run

end Engine

end Toasts

import Toasts.Proofs.InStep

/-!
Runs in which listeners and callbacks of toasts ask for nothing. In such a run an operation begins
only while nothing is under way, or after the other dismissals of a resumption, so no two operations
overlap; and while anything is under way a record only ever leaves.
-/

namespace Toasts

def Frame.speaks : Frame → Bool
  | .arm _ _ => true
  | .leave _ _ => true
  | .disarm _ => true
  | _ => false

theorem Frame.asks?_of_silent {frame : Frame} (silent : frame.speaks = false) (id : ToastId) :
    frame.asks? id = none := by
  cases frame <;> first | rfl | cases silent

theorem Frame.speaks_of_isOutside {frame : Frame} (outside : frame.isOutside = true) :
    frame.speaks = false := by
  cases frame <;> first | rfl | cases outside

namespace Engine

inductive Restacks (engine : Engine) (event : Event) (after : Engine) : Prop where
  | undue (popped pushed below : List Frame) (before : engine.frames = popped ++ below)
      (frames : after.frames = pushed ++ below) (undue : ∀ frame ∈ pushed, frame.isDue = false)
  /-- The first of the dismissals is done, or not needed. -/
  | drops (id : ToastId) (ids : List ToastId) (pushed rest : List Frame)
      (top : engine.frames = .due (id :: ids) :: rest)
      (frames : after.frames = pushed ++ .due ids :: rest)
      (undue : ∀ frame ∈ pushed, frame.isDue = false)
  | resumes (answer : Answer) (request : event.isRequest = true)
      (frames : after.frames = .due ((engine.countdowns.resume engine.now).due.map (·.key)) ::
        .returned answer :: engine.frames)
      (store : after.store = engine.store)

theorem callback_undue (hook : Option Hook) (call : Hook → Call) (last : Frame)
    (undue : last.isDue = false) : ∀ frame ∈ callback hook call ++ [last], frame.isDue = false := by
  intro frame member
  rcases List.mem_append.mp member with call | single
  · cases hook with
    | none => cases call
    | some hook =>
        rw [List.mem_singleton.mp call]
        rfl
  · rw [List.mem_singleton.mp single]
    exact undue

theorem Move.restacks {engine after : Engine} {event : Event} (move : Move engine event after) :
    Restacks engine event after := by
  have published {toast : Toast} {cause : Cause} :
      ∀ frame ∈ [after.announcement, .leave toast cause], frame.isDue = false := by
    simp [announcement, Frame.isDue]
  cases move with
  | request operation after answer turn effect =>
      obtain ⟨pushed, frames, undue | ⟨rfl, store⟩⟩ := effect.above
      · refine .undue [] (pushed ++ [.returned answer]) _ rfl (by simp [frames]) ?_
        intro frame member
        rcases List.mem_append.mp member with own | single
        · exact undue frame own
        · rw [List.mem_singleton.mp single]
          rfl
      · exact .resumes answer rfl frames store
  | published version snapshot pending rest top served => exact .undue [_] [] rest top rfl (by simp)
  | deliver version snapshot listener pending rest top current =>
      exact .undue [_] [_, _] rest top rfl (by simp [Frame.isDue])
  | arm id lifespan rest top =>
      obtain ⟨countdowns, agenda, shape⟩ := arm_shape { engine with frames := rest } id lifespan
      exact .undue [_] [] rest top (by rw [shape]; rfl) (by simp)
  | leave toast cause rest top =>
      refine .undue [_] (_ ++ [_]) rest top (List.append_assoc _ [_] rest).symm ?_
      cases cause with
      | user => simp [Frame.isDue]
      | countdown => exact callback_undue _ _ _ rfl
  | farewell toast rest top =>
      exact .undue [_] (_ ++ [_]) rest top (List.append_assoc _ [_] rest).symm
        (callback_undue _ _ _ rfl)
  | exitWindow toast rest top => exact .undue [_] [] rest top rfl (by simp)
  | disarm ids rest top =>
      obtain ⟨countdowns, shape⟩ := disarm_shape { engine with frames := rest } ids
      exact .undue [_] [] rest top (by rw [shape]; rfl) (by simp)
  | dueDone rest top => exact .undue [_] [] rest top rfl (by simp)
  | dueGone id ids rest top gone => exact .drops id ids [] rest top rfl (by simp)
  | due toast ids rest after top leaves =>
      exact .drops toast.id ids [_, _] rest top leaves.publishes.frames published
  | handBack frame rest top idle => exact .undue [_] [] rest top rfl (by simp)
  | waits place agenda idle taken => exact .undue [] [] _ rfl rfl (by simp)
  | stale place agenda deed idle taken gone => exact .undue [] [] _ rfl rfl (by simp)
  | expireGone place agenda id generation countdowns countdown idle taken expired gone =>
      exact .undue [] [] _ rfl rfl (by simp)
  | expire place agenda toast generation countdowns countdown after idle taken expired leaves =>
      exact .undue [] [_, _] _ rfl leaves.publishes.frames published
  | remove place agenda id edition after idle taken publishes =>
      exact .undue [] [_] [] idle publishes.frames (by simp [announcement, Frame.isDue])
  | errand place agenda ticket idle taken =>
      exact .undue [] [_] [] idle rfl (by simp [Frame.isDue])
  | pass moment idle later => exact .undue [] [] _ rfl rfl (by simp)

theorem Restacks.due_old {engine after : Engine} {event : Event}
    (restacks : Restacks engine event after) (own : event.isRequest = false) {id : ToastId}
    (due : after.isDue id) : engine.isDue id := by
  obtain ⟨ids, member, listed⟩ := due
  cases restacks with
  | undue popped pushed below before frames undue =>
      rw [frames] at member
      rcases List.mem_append.mp member with new | stays
      · cases undue _ new
      · exact ⟨ids, before ▸ List.mem_append_right _ stays, listed⟩
  | drops first others pushed rest top frames undue =>
      rw [frames] at member
      rcases List.mem_append.mp member with new | stays
      · cases undue _ new
      · rcases List.mem_cons.mp stays with same | below
        · cases same
          exact ⟨first :: ids, by simp [top], List.mem_cons_of_mem _ listed⟩
        · exact ⟨ids, by simp [top, below], listed⟩
  | resumes answer request frames store =>
      rw [own] at request
      cases request

/-- Nothing that has a say in countdowns waits below the dismissals of a resumption. -/
def Sheltered (engine : Engine) : Prop :=
  engine.frames.Pairwise fun upper lower => upper.isDue = true → lower.speaks = false

theorem pairwise_pushed {pushed below : List Frame}
    (sheltered : below.Pairwise fun upper lower => upper.isDue = true → lower.speaks = false)
    (undue : ∀ frame ∈ pushed, frame.isDue = false) : (pushed ++ below).Pairwise
      fun upper lower => upper.isDue = true → lower.speaks = false := by
  have never {upper : Frame} (member : upper ∈ pushed) (due : upper.isDue = true) : False := by
    rw [undue upper member] at due
    cases due
  refine List.pairwise_append.mpr ⟨?_, sheltered, fun _ member _ _ due => (never member due).elim⟩
  exact List.pairwise_of_forall_mem_list fun _ member _ _ due => (never member due).elim

theorem Restacks.sheltered {engine after : Engine} {event : Event}
    (restacks : Restacks engine event after) (passive : event.isRequest = true → engine.AtRest)
    (sheltered : engine.Sheltered) : after.Sheltered := by
  cases restacks with
  | undue popped pushed below before frames undue =>
      rw [Sheltered, before] at sheltered
      rw [Sheltered, frames]
      exact pairwise_pushed (List.pairwise_append.mp sheltered).2.1 undue
  | drops id ids pushed rest top frames undue =>
      rw [Sheltered, top] at sheltered
      obtain ⟨silent, below⟩ := List.pairwise_cons.mp sheltered
      rw [Sheltered, frames]
      exact pairwise_pushed
        (List.pairwise_cons.mpr ⟨fun lower member _ => silent lower member rfl, below⟩) undue
  | resumes answer request frames store =>
      rw [Sheltered, frames]
      refine List.pairwise_cons.mpr ⟨fun lower member _ => ?_,
        List.pairwise_cons.mpr ⟨fun _ _ due => (by cases due), sheltered⟩⟩
      rcases List.mem_cons.mp member with rfl | outside
      · rfl
      · exact Frame.speaks_of_isOutside (passive request lower outside)

theorem Move.inward {engine after : Engine} {event : Event} (move : Move engine event after)
    (own : event.isRequest = false) (busy : engine.frames ≠ []) (id : ToastId) :
    after.get? id = engine.get? id ∨
      ∃ toast, engine.get? id = some toast ∧ after.get? id = some toast.leave := by
  cases move with
  | request operation after answer turn effect => cases own
  | published version snapshot pending rest top served => exact .inl rfl
  | deliver version snapshot listener pending rest top current => exact .inl rfl
  | arm other lifespan rest top =>
      obtain ⟨countdowns, agenda, shape⟩ := arm_shape { engine with frames := rest } other lifespan
      exact .inl (by rw [shape]; rfl)
  | leave toast cause rest top => exact .inl rfl
  | farewell toast rest top => exact .inl rfl
  | exitWindow toast rest top => exact .inl rfl
  | disarm ids rest top =>
      obtain ⟨countdowns, shape⟩ := disarm_shape { engine with frames := rest } ids
      exact .inl (by rw [shape]; rfl)
  | dueDone rest top => exact .inl rfl
  | dueGone other ids rest top gone => exact .inl rfl
  | due toast ids rest after top leaves =>
      have same : toast.leave.id = toast.id := rfl
      have look := get?_replaced leaves.found same leaves.publishes.toasts id
      by_cases hit : toast.id = id
      · rw [if_pos hit] at look
        exact .inr ⟨toast, hit ▸ leaves.found, look⟩
      · rw [if_neg hit] at look
        exact .inl look
  | handBack frame rest top idle => exact .inl rfl
  | waits place agenda idle taken => exact absurd idle busy
  | stale place agenda deed idle taken gone => exact absurd idle busy
  | expireGone place agenda other generation countdowns countdown idle taken expired gone =>
      exact absurd idle busy
  | expire place agenda toast generation countdowns countdown after idle taken expired leaves =>
      exact absurd idle busy
  | remove place agenda other edition after idle taken publishes => exact absurd idle busy
  | errand place agenda ticket idle taken => exact absurd idle busy
  | pass moment idle later => exact absurd idle busy

namespace Run

variable {settings : Settings} {defaults : Defaults} {now : Nat} {finish : Engine}

theorem Passive.sheltered {run : Run (fresh settings defaults now) finish}
    (passive : run.Passive) : finish.Sheltered := by
  have initial : (fresh settings defaults now).Sheltered := List.Pairwise.nil
  exact run.invariant initial
    (fun stride quiet sheltered => (stride.move quiet.1).restacks.sheltered quiet.2 sheltered) passive

/-- Where listeners and callbacks ask for nothing, no two operations on a toast overlap. -/
theorem Passive.apart {run : Run (fresh settings defaults now) finish} (passive : run.Passive)
    (id : ToastId) : run.overlaps id = false := by
  induction run with
  | start => rfl
  | @next engine after run event stride ih =>
      have quiet := passive.2
      -- An operation begins at rest, after the other dismissals of a resumption, or while nothing is
      -- under way. In none of these cases is a wish pending.
      have sheltered := Passive.sheltered passive.1
      have heard := (stride.move quiet.1).heard (run.orderly (Passive.managed passive.1)) id
      rw [overlaps, ih passive.1, Bool.false_or, Bool.and_eq_false_iff]
      by_cases begun : (engine.begins? after id).isSome = true
      · have free : wishes id engine.frames = [] := by
          rcases heard.origin begun with request | due | idle
          · exact List.filterMap_eq_nil_iff.mpr fun frame member =>
              Frame.asks?_of_isOutside (quiet.2 request frame member) id
          · cases top : engine.frames with
            | nil => rfl
            | cons first rest =>
                rw [top] at due
                rw [Sheltered, top] at sheltered
                have below := (List.pairwise_cons.mp sheltered).1
                have silent : first.speaks = false := by
                  cases first <;> first | rfl | cases due
                apply List.filterMap_eq_nil_iff.mpr
                intro frame member
                rcases List.mem_cons.mp member with rfl | later
                · exact Frame.asks?_of_silent silent id
                · exact Frame.asks?_of_silent (below frame later (by simpa using due)) id
          · rw [idle]
            rfl
        exact .inr (by rw [free]; rfl)
      · exact .inl (by simpa using begun)

end Run

end Engine

end Toasts

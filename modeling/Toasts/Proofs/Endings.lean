import Toasts.Proofs.Sequels

/-!
Calls that end. Each frame stands for a bounded number of strides: a listener or a callback is
called and hands back, and what a dismissal of a resumption puts on the stack is bounded by the
number of listeners. So when nobody asks for anything, every call comes to its answer, and whoever
asks for something meanwhile does so above what the call had found on the stack.
-/

namespace Toasts

/-- More strides than it takes to be done with a frame, and with all that comes of it, where so many
listeners are told of a snapshot. -/
def Frame.load (audience : Nat) : Frame → Nat
  | .publish _ _ pending => 2 * pending.length + 1
  | .leave _ _ => 5
  | .farewell _ => 3
  | .due ids => (2 * audience + 7) * ids.length + 1
  | _ => 1

namespace Engine

variable {engine after : Engine} {event : Event} {id : ToastId} {cause : Cause}

theorem dismiss?_live {toast : Toast} (found : engine.get? id = some toast)
    (live : toast.exiting = false) (cause : Cause) : engine.dismiss? id cause =
      some (engine.publish (engine.store.swap
        (Store.replaceFirst id toast.leave engine.store.toasts)) [.leave toast cause]) := by
  have found' : engine.store.get? id = some toast := found
  simp [dismiss?, found, found', Toast.isLive, live, Store.update?]

theorem dismiss?_gone (gone : ∀ toast, engine.get? id = some toast → toast.exiting = true)
    (cause : Cause) : engine.dismiss? id cause = none := by
  cases found : engine.get? id with
  | none => simp [dismiss?, found]
  | some toast => simp [dismiss?, found, Toast.isLive, gone toast found]

theorem step_due (ids : List ToastId) (rest : List Frame)
    (top : engine.frames = .due (id :: ids) :: rest) : engine.step =
      ({ engine with frames := .due ids :: rest }.dismiss? id .countdown).getD
        { engine with frames := .due ids :: rest } := by
  simp [step, top, Engine.work, push]

theorem step_due_gone {ids : List ToastId} {rest : List Frame}
    (top : engine.frames = .due (id :: ids) :: rest)
    (gone : ∀ toast, engine.get? id = some toast → toast.exiting = true) :
    engine.step = { engine with frames := .due ids :: rest } := by
  have gone' : ∀ toast, { engine with frames := .due ids :: rest }.get? id = some toast →
      toast.exiting = true := gone
  rw [step_due ids rest top, dismiss?_gone gone']
  rfl

theorem step_due_live {ids : List ToastId} {rest : List Frame} {toast : Toast}
    (top : engine.frames = .due (id :: ids) :: rest) (found : engine.get? id = some toast)
    (live : toast.exiting = false) : engine.step =
      { engine with frames := .due ids :: rest }.publish (engine.store.swap
        (Store.replaceFirst id toast.leave engine.store.toasts)) [.leave toast .countdown] := by
  have found' : { engine with frames := .due ids :: rest }.get? id = some toast := found
  rw [step_due ids rest top, dismiss?_live found' live]
  rfl

def load (engine : Engine) : List Frame → Nat
  | [] => 0
  | frame :: rest => frame.load engine.store.listeners.length + engine.load rest

theorem load_congr (listeners : after.store.listeners = engine.store.listeners)
    (frames : List Frame) : after.load frames = engine.load frames := by
  induction frames with
  | nil => rfl
  | cons frame rest ih => rw [load, listeners, ih, load]

theorem load_append (engine : Engine) (above below : List Frame) :
    engine.load (above ++ below) = engine.load above + engine.load below := by
  induction above with
  | nil => simp [load]
  | cons frame above ih => rw [List.cons_append, load, ih, load, Nat.add_assoc]

theorem load_callback (engine : Engine) (hook : Option Hook) (call : Hook → Call) (last : Frame) :
    engine.load (callback hook call ++ [last]) ≤
      1 + last.load engine.store.listeners.length := by
  cases hook <;> simp [callback, load, Frame.load]

/-- The engine's next step trades the frame on top for lighter ones. -/
theorem step_lightens {frame : Frame} {rest : List Frame} (top : engine.frames = frame :: rest)
    (work : frame.isWork = true) :
    engine.step.store.listeners = engine.store.listeners ∧
      ∃ pushed, engine.step.frames = pushed ++ rest ∧
        engine.load pushed < frame.load engine.store.listeners.length := by
  cases frame with
  | caller call => cases work
  | returned answer => cases work
  | publish version snapshot pending =>
      cases pending with
      | nil => exact ⟨by simp [step, top, Engine.work], [], by simp [step, top, Engine.work],
          by simp [load, Frame.load]⟩
      | cons listener pending =>
          by_cases current : engine.store.version = version
          · refine ⟨by simp [step, top, Engine.work, current, push],
              [.caller (.deliver listener snapshot), .publish version snapshot pending],
              by simp [step, top, Engine.work, current, push], ?_⟩
            simp only [load, Frame.load, List.length_cons]
            omega
          · exact ⟨by simp [step, top, Engine.work, current], [],
              by simp [step, top, Engine.work, current], by simp [load, Frame.load]⟩
  | arm id lifespan =>
      obtain ⟨countdowns, agenda, shape⟩ := arm_shape { engine with frames := rest } id lifespan
      exact ⟨by simp [step, top, Engine.work, shape], [], by simp [step, top, Engine.work, shape],
        by simp [load, Frame.load]⟩
  | leave toast cause =>
      have few (hook : Option Hook) :=
        engine.load_callback hook (.autoClosed · toast) (.farewell toast)
      cases cause with
      | user =>
          refine ⟨by simp [step, top, Engine.work, push],
            callback none (.autoClosed · toast) ++ [.farewell toast],
            by simp [step, top, Engine.work, push, callback], ?_⟩
          exact Nat.lt_of_le_of_lt (few none) (by simp [Frame.load])
      | countdown =>
          refine ⟨by simp [step, top, Engine.work, push],
            callback toast.onAutoClose (.autoClosed · toast) ++ [.farewell toast],
            by simp [step, top, Engine.work, push], ?_⟩
          exact Nat.lt_of_le_of_lt (few toast.onAutoClose) (by simp [Frame.load])
  | farewell toast =>
      have few := engine.load_callback toast.onDismiss (.dismissed · toast) (.exitWindow toast)
      refine ⟨by simp [step, top, Engine.work, push],
        callback toast.onDismiss (.dismissed · toast) ++ [.exitWindow toast],
        by simp [step, top, Engine.work, push], ?_⟩
      exact Nat.lt_of_le_of_lt few (by simp [Frame.load])
  | exitWindow toast =>
      exact ⟨by simp [step, top, Engine.work], [], by simp [step, top, Engine.work],
        by simp [load, Frame.load]⟩
  | disarm ids =>
      obtain ⟨countdowns, shape⟩ := disarm_shape { engine with frames := rest } ids
      exact ⟨by simp [step, top, Engine.work, shape], [], by simp [step, top, Engine.work, shape],
        by simp [load, Frame.load]⟩
  | due ids =>
      cases ids with
      | nil => exact ⟨by simp [step, top, Engine.work], [], by simp [step, top, Engine.work],
          by simp [load, Frame.load]⟩
      | cons id ids =>
          have less : engine.load [.due ids] <
              (Frame.due (id :: ids)).load engine.store.listeners.length := by
            simp only [load, Frame.load, List.length_cons, Nat.mul_succ]
            omega
          rcases engine.gone_or_live id with gone | ⟨toast, found, live⟩
          · rw [step_due_gone top gone]
            exact ⟨rfl, [.due ids], rfl, less⟩
          · rw [step_due_live top found live]
            refine ⟨rfl, [_, _, _], rfl, ?_⟩
            simp only [load, announcement, Frame.load, List.length_cons, Nat.mul_succ, Store.swap]
            omega

theorem Stride.above {pushed below : List Frame} (stride : Stride engine event after)
    (frames : engine.frames = pushed ++ below) (busy : below.length < engine.frames.length) :
    ∃ pushed, after.frames = pushed ++ below := by
  cases pushed with
  | nil => simp [frames] at busy
  | cons first pushed =>
      rw [List.cons_append] at frames
      cases stride with
      | request operation turn =>
          exact ⟨_ ++ .returned _ :: first :: pushed, by simp [Engine.request, frames]; rfl⟩
      | proceed frame rest top work =>
          obtain ⟨rfl, rfl⟩ := List.cons.inj (top.symm.trans frames)
          obtain ⟨_, more, grown, _⟩ := step_lightens top work
          exact ⟨more ++ pushed, by rw [grown, List.append_assoc]⟩
      | handBack frame rest top idle =>
          obtain ⟨rfl, rfl⟩ := List.cons.inj (top.symm.trans frames)
          exact ⟨pushed, by rw [resumeTurn_pops top idle]⟩
      | poll place after idle taken => cases idle.symm.trans frames
      | pass moment idle later => cases idle.symm.trans frames

namespace Run

variable {start finish : Engine} {below : List Frame}

def Within (below : List Frame) (call : Run start finish) : Prop :=
  call.All fun engine _ => below.length < engine.frames.length

instance (below : List Frame) (call : Run start finish) : Decidable (call.Within below) :=
  inferInstanceAs (Decidable (call.All _))

theorem Quiet.within {call : Run start finish} (quiet : call.Quiet below) : call.Within below :=
  All.mono quiet fun _ _ both => both.2

/-- Whatever is asked for during a call, what the call had found on the stack stays there. -/
theorem Within.above {call : Run start finish} (within : call.Within below) {pushed : List Frame}
    (frames : start.frames = pushed ++ below) : ∃ pushed, finish.frames = pushed ++ below := by
  induction call with
  | start => exact ⟨pushed, frames⟩
  | next call event stride ih =>
      obtain ⟨more, grown⟩ := ih within.1
      exact stride.above grown within.2

/-- Every call comes to its answer when nobody asks for anything meanwhile. -/
theorem Quiet.ends {engine : Engine} {call : Run start engine} {pushed : List Frame}
    (quiet : call.Quiet below) (frames : engine.frames = pushed ++ below) :
    ∃ finish, ∃ call : Run start finish, call.Returns below := by
  -- By induction on how much is left to do above `below`.
  induction weight : engine.load pushed using Nat.strongRecOn generalizing engine pushed with
  | ind weight ih =>
      subst weight
      cases pushed with
      | nil => exact ⟨engine, call, quiet, frames⟩
      | cons first pushed =>
          rw [List.cons_append] at frames
          have longer : below.length < engine.frames.length := by
            simp only [frames, List.length_cons, List.length_append]
            omega
          have whole : engine.load (first :: pushed) =
              first.load engine.store.listeners.length + engine.load pushed := rfl
          cases work : first.isWork with
          | true =>
              obtain ⟨listeners, more, grown, lighter⟩ := step_lightens frames work
              have next : (call.next .proceed (.proceed _ _ frames work)).Quiet below :=
                ⟨quiet, rfl, longer⟩
              refine ih _ ?_ next (by rw [grown, List.append_assoc]) rfl
              rw [load_congr listeners, load_append, whole]
              omega
          | false =>
              have next : (call.next .handBack (.handBack _ _ frames work)).Quiet below :=
                ⟨quiet, rfl, longer⟩
              have popped := resumeTurn_pops frames work
              refine ih _ ?_ next (by rw [popped]) rfl
              have listeners : engine.resumeTurn.store.listeners = engine.store.listeners := by
                rw [popped]
              have positive : 0 < first.load engine.store.listeners.length := by
                cases first <;> simp [Frame.load]
              rw [load_congr listeners, whole]
              omega

end Run

end Engine

end Toasts

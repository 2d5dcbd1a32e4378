import Toasts.Proofs.Endings
import Toasts.Proofs.Goodbyes

/-!
What is left to do comes to. As long as nobody asks for anything, each frame has an upshot: what the
engine is once the frame and all that comes of it are done, and which callbacks of toasts are called
meanwhile. A step trades the frame on top for others with the same upshot. So when a call returns,
the engine is what its frames came to at the start, whoever has listened.
-/

namespace Toasts

namespace Engine

def bare (engine : Engine) : Engine := { engine with frames := [] }

def retire (engine : Engine) (toast : Toast) : Engine :=
  { engine with
    agenda := engine.agenda.spawn engine.settings.exitWindow (.remove toast.id toast.edition) }

def depart (engine : Engine) (toast : Toast) : Engine :=
  { engine with countdowns := engine.countdowns.cancel toast.id }.retire toast

def live? (engine : Engine) (id : ToastId) : Option Toast := (engine.get? id).filter (·.isLive)

def lapse (engine : Engine) (id : ToastId) : Engine :=
  match engine.live? id with
  | none => engine
  | some toast =>
      { engine with
        store := engine.store.swap (Store.replaceFirst id toast.leave engine.store.toasts) }.depart
        toast

def lapseCalls (engine : Engine) : List ToastId → List Call
  | [] => []
  | id :: ids =>
      (engine.live? id).toList.flatMap (·.lastCalls .countdown) ++ (engine.lapse id).lapseCalls ids

end Engine

def Frame.upshot (engine : Engine) : Frame → Engine
  | .arm id lifespan => engine.arm id lifespan
  | .leave toast _ => engine.depart toast
  | .farewell toast => engine.retire toast
  | .exitWindow toast => engine.retire toast
  | .disarm ids => engine.disarm ids
  | .due ids => ids.foldl Engine.lapse engine
  | _ => engine

def Frame.calls (engine : Engine) : Frame → List Call
  | .due ids => engine.lapseCalls ids
  | frame => frame.lastCalls

namespace Engine

variable {engine after : Engine} {id : ToastId}

def upshot (engine : Engine) (frames : List Frame) : Engine := frames.foldl Frame.upshot engine

def calls (engine : Engine) : List Frame → List Call
  | [] => []
  | frame :: rest => frame.calls engine ++ (frame.upshot engine).calls rest

theorem upshot_append (engine : Engine) (above below : List Frame) :
    engine.upshot (above ++ below) = (engine.upshot above).upshot below :=
  List.foldl_append

theorem calls_append (engine : Engine) (above below : List Frame) :
    engine.calls (above ++ below) = engine.calls above ++ (engine.upshot above).calls below := by
  induction above generalizing engine with
  | nil => rfl
  | cons frame above ih =>
      rw [List.cons_append, calls, ih, calls, List.append_assoc]
      rfl

theorem live?_some {toast : Toast} (found : engine.get? id = some toast)
    (live : toast.exiting = false) : engine.live? id = some toast := by
  simp [live?, found, Toast.isLive, live]

theorem live?_none (gone : ∀ toast, engine.get? id = some toast → toast.exiting = true) :
    engine.live? id = none := by
  cases found : engine.get? id with
  | none => simp [live?, found]
  | some toast => simp [live?, found, Toast.isLive, gone toast found]

theorem lapse_none (none : engine.live? id = none) : engine.lapse id = engine := by
  simp [lapse, none]

theorem lapse_some {toast : Toast} (live : engine.live? id = some toast) : engine.lapse id =
    { engine with
      store := engine.store.swap (Store.replaceFirst id toast.leave engine.store.toasts) }.depart
      toast := by
  simp [lapse, live]

theorem lapseCalls_cons (engine : Engine) (id : ToastId) (ids : List ToastId) :
    engine.lapseCalls (id :: ids) = engine.lapseCalls [id] ++ (engine.lapse id).lapseCalls ids := by
  simp [lapseCalls]

/-- What the end of a countdown puts on the stack comes to the end of that countdown; no callback is
called at once, since the listeners come first. -/
theorem dismiss?_upshot (engine : Engine) (id : ToastId) :
    ∃ pushed, ((engine.dismiss? id .countdown).getD engine).frames = pushed ++ engine.frames ∧
      ((engine.dismiss? id .countdown).getD engine).bare.upshot pushed = engine.bare.lapse id ∧
      ((engine.dismiss? id .countdown).getD engine).bare.calls pushed =
        engine.bare.lapseCalls [id] ∧
      (engine.frames.head?.bind Frame.call? = none → ∀ before : Engine,
        before.begun? ((engine.dismiss? id .countdown).getD engine) = none) := by
  rcases engine.gone_or_live id with gone | ⟨toast, found, live⟩
  · have gone' : ∀ toast, engine.bare.get? id = some toast → toast.exiting = true := gone
    have none := live?_none gone'
    rw [dismiss?_gone gone, Option.getD_none]
    refine ⟨[], rfl, (lapse_none none).symm, ?_, fun silent before => begun?_of_head silent⟩
    rw [lapseCalls, none]
    rfl
  · have found' : engine.bare.get? id = some toast := found
    have lives := live?_some found' live
    rw [dismiss?_live found live, Option.getD_some]
    refine ⟨[_, .leave toast .countdown], rfl, (lapse_some lives).symm, ?_,
      fun _ before => begun?_of_head rfl⟩
    have spoken : engine.bare.lapseCalls [id] = toast.lastCalls .countdown := by
      simp [lapseCalls, lives]
    rw [spoken]
    exact List.append_nil _

theorem arm_bare (engine : Engine) (frames : List Frame) (id : ToastId) (lifespan : Lifespan) :
    ({ engine with frames }.arm id lifespan).bare = engine.bare.arm id lifespan := by
  simp only [arm]
  split <;> rfl

theorem disarm_bare (engine : Engine) (frames : List Frame) (ids : Option (List ToastId)) :
    ({ engine with frames }.disarm ids).bare = engine.bare.disarm ids := by
  cases ids <;> rfl

/-- A frame gives way to others that come to the same, and what is said meanwhile is no longer to be
said by them. -/
def Trades (engine : Engine) (frame : Frame) (rest : List Frame) (after : Engine) : Prop :=
  ∃ pushed, after.frames = pushed ++ rest ∧
    after.bare.upshot pushed = frame.upshot engine.bare ∧
    (engine.goodbye? after).toList.map Goodbye.call ++ after.bare.calls pushed =
      frame.calls engine.bare

theorem trades_plain {frame : Frame} {rest : List Frame} (top : engine.frames = frame :: rest)
    (pushed : List Frame) (frames : after.frames = pushed ++ rest)
    (plain : ∀ frame ∈ pushed, frame.isPlain = true)
    (upshot : after.bare.upshot pushed = frame.upshot engine.bare)
    (calls : after.bare.calls pushed = frame.calls engine.bare) :
    engine.Trades frame rest after := by
  refine ⟨pushed, frames, upshot, ?_⟩
  rw [goodbye?_plain [frame] pushed rest top frames plain (by simp) (by simp), ← calls]
  rfl

theorem trades_callback {frame last : Frame} {rest : List Frame} {hook : Option Hook}
    {call : Hook → Call} (top : engine.frames = frame :: rest)
    (frames : after.frames = callback hook call ++ last :: rest)
    (said : ∀ hook, (call hook).parted?.isSome = true) (work : last.isWork = true)
    (upshot : last.upshot after.bare = frame.upshot engine.bare)
    (calls : hook.toList.map call ++ last.calls after.bare = frame.calls engine.bare) :
    engine.Trades frame rest after := by
  refine ⟨callback hook call ++ [last], by rw [frames, List.append_assoc]; rfl, ?_, ?_⟩
  · rw [← upshot]
    cases hook <;> rfl
  · rw [goodbye?_callback top frames said work, ← calls]
    cases hook <;> simp [Engine.calls, callback, Frame.calls, Frame.lastCalls, Frame.upshot]

theorem step_trades {frame : Frame} {rest : List Frame} (top : engine.frames = frame :: rest)
    (work : frame.isWork = true) : engine.Trades frame rest engine.step := by
  cases frame with
  | caller call => cases work
  | returned answer => cases work
  | publish version snapshot pending =>
      have ends : engine.Trades (.publish version snapshot pending) rest
          { engine with frames := rest } := trades_plain top [] rfl (by simp) rfl rfl
      cases pending with
      | nil => simpa [step, top, Engine.work] using ends
      | cons listener pending =>
          by_cases current : engine.store.version = version
          · have shape : engine.step = { engine with
                frames := [.caller (.deliver listener snapshot),
                  .publish version snapshot pending] ++ rest } := by
              simp [step, top, Engine.work, current, push]
            rw [shape]
            refine trades_plain top [_, _] rfl ?_ rfl rfl
            simp [Frame.isPlain, Call.parted?]
          · simpa [step, top, Engine.work, current] using ends
  | arm id lifespan =>
      have shape : engine.step = { engine with frames := rest }.arm id lifespan := by
        simp [step, top, Engine.work]
      obtain ⟨countdowns, agenda, armed⟩ := arm_shape { engine with frames := rest } id lifespan
      have frames : engine.step.frames = [] ++ rest := by rw [shape, armed]; rfl
      refine trades_plain top [] frames (by simp) ?_ rfl
      rw [shape]
      exact arm_bare engine rest id lifespan
  | leave toast cause =>
      have shape : engine.step = { engine with
          countdowns := engine.countdowns.cancel toast.id
          frames := callback (if cause = .countdown then toast.onAutoClose else none)
            (.autoClosed · toast) ++ .farewell toast :: rest } := by
        cases cause <;> simp [step, top, Engine.work, push, callback]
      rw [shape]
      refine trades_callback top rfl (fun _ => rfl) rfl rfl ?_
      cases cause <;> rfl
  | farewell toast =>
      have shape : engine.step = { engine with
          frames := callback toast.onDismiss (.dismissed · toast) ++
            .exitWindow toast :: rest } := by
        simp [step, top, Engine.work, push]
      rw [shape]
      refine trades_callback top rfl (fun _ => rfl) rfl rfl ?_
      exact List.append_nil _
  | exitWindow toast =>
      have shape : engine.step = { engine with frames := rest }.retire toast := by
        simp [step, top, Engine.work, retire]
      rw [shape]
      exact trades_plain top [] rfl (by simp) rfl rfl
  | disarm ids =>
      have shape : engine.step = { engine with frames := rest }.disarm ids := by
        simp [step, top, Engine.work]
      obtain ⟨countdowns, disarmed⟩ := disarm_shape { engine with frames := rest } ids
      have frames : engine.step.frames = [] ++ rest := by rw [shape, disarmed]; rfl
      refine trades_plain top [] frames (by simp) ?_ rfl
      rw [shape]
      exact disarm_bare engine rest ids
  | due ids =>
      cases ids with
      | nil =>
          have ends : engine.Trades (.due []) rest { engine with frames := rest } :=
            trades_plain top [] rfl (by simp) rfl rfl
          simpa [step, top, Engine.work] using ends
      | cons id ids =>
          obtain ⟨pushed, frames, upshot, calls, silent⟩ :=
            dismiss?_upshot { engine with frames := .due ids :: rest } id
          rw [← step_due ids rest top] at frames upshot calls silent
          refine ⟨pushed ++ [.due ids], by rw [frames, List.append_assoc]; rfl, ?_, ?_⟩
          · rw [upshot_append, upshot]
            rfl
          · have later : engine.bare.lapseCalls (id :: ids) = _ := lapseCalls_cons _ id ids
            rw [goodbye?_silent (silent rfl engine), calls_append, upshot, calls, Frame.calls, later]
            exact congrArg (engine.bare.lapseCalls [id] ++ ·) (List.append_nil _)

theorem handBack_trades {frame : Frame} {rest : List Frame} (top : engine.frames = frame :: rest)
    (idle : frame.isWork = false) : engine.Trades frame rest engine.resumeTurn := by
  rw [resumeTurn_pops top idle]
  refine trades_plain top [] rfl (by simp) ?_ ?_
  · cases frame <;> first | rfl | cases idle
  · cases frame <;> first | rfl | cases idle

namespace Run

variable {start finish : Engine} {below : List Frame}

/-- While nobody asks for anything, what is left to do comes to what it came to at the start. -/
theorem Quiet.upshot {call : Run start finish} (quiet : call.Quiet below) {pushed : List Frame}
    (frames : start.frames = pushed ++ below) : ∃ more, finish.frames = more ++ below ∧
      finish.bare.upshot more = start.bare.upshot pushed ∧
      call.goodbyes.map Goodbye.call ++ finish.bare.calls more = start.bare.calls pushed := by
  induction call with
  | start => exact ⟨pushed, frames, rfl, rfl⟩
  | @next engine after call event stride ih =>
      obtain ⟨more, left, upshot, calls⟩ := ih quiet.1
      obtain ⟨own, longer⟩ := quiet.2
      cases more with
      | nil => exact absurd longer (by simp [left])
      | cons first more =>
          rw [List.cons_append] at left
          -- One frame is traded for others, and those below it stay.
          have trades : engine.Trades first (more ++ below) after := by
            cases stride with
            | request operation turn => cases own
            | proceed frame rest top work =>
                obtain ⟨rfl, rfl⟩ := List.cons.inj (top.symm.trans left)
                exact step_trades top work
            | handBack frame rest top idle =>
                obtain ⟨rfl, rfl⟩ := List.cons.inj (top.symm.trans left)
                exact handBack_trades top idle
            | poll place after idle taken => cases idle.symm.trans left
            | pass moment idle later => cases idle.symm.trans left
          obtain ⟨traded, grown, same, said⟩ := trades
          refine ⟨traded ++ more, by rw [grown, List.append_assoc], ?_, ?_⟩
          · rw [upshot_append, same, ← upshot]
            rfl
          · rw [calls_append, same, goodbyes, List.map_append, List.append_assoc, ← calls,
              Engine.calls, ← said, List.append_assoc]

/-- A call that returns has come to what was left to do at its start, and to the answer that lay
below that. -/
theorem Returns.upshot {call : Run start finish} (returns : call.Returns below)
    {pushed left : List Frame} (frames : start.frames = pushed ++ left)
    (level : below.length = left.length) :
    below = left ∧ finish = { start.bare.upshot pushed with frames := left } ∧
      call.goodbyes.map Goodbye.call = start.bare.calls pushed := by
  have quiet : call.Quiet left := by
    have quiet := returns.1
    rwa [Quiet, level] at quiet
  obtain ⟨more, rest, upshot, calls⟩ := quiet.upshot frames
  rw [returns.2] at rest
  have none : more = [] := by
    have long := congrArg List.length rest
    rw [List.length_append] at long
    exact List.length_eq_zero_iff.mp (by omega)
  subst none
  rw [List.nil_append] at rest
  refine ⟨rest, ?_, ?_⟩
  · rw [← upshot, ← rest, ← returns.2]
    rfl
  · rw [← calls]
    exact (List.append_nil _).symm

end Run

end Engine

end Toasts

import Toasts.Proofs.Announcements

/-!
No call goes uncounted. A call of the caller's code begins when it comes to the top of the stack, and
ends when it is handed back. What has begun, what has ended and what is under way add up at every
stride, whatever is asked for and whoever writes to the store. So whoever counts the calls that begin
counts all calls.
-/

namespace Toasts

namespace Engine

variable {engine after : Engine} {event : Event}

theorem calls_traded (popped pushed below : List Frame) (before : engine.frames = popped ++ below)
    (frames : after.frames = pushed ++ below) (idle : ∀ frame ∈ popped, frame.call? = none)
    (calm : ∀ frame ∈ pushed.tail, frame.call? = none) (single : popped.length ≤ 1)
    (moved : popped ++ pushed = [] → below = []) :
    after.underWay = (engine.begun? after).toList ++ engine.underWay := by
  have first : pushed.filterMap Frame.call? = (pushed.head?.bind Frame.call?).toList := by
    cases pushed with
    | nil => rfl
    | cons frame pushed =>
        have rest : pushed.filterMap Frame.call? = [] := List.filterMap_eq_nil_iff.mpr calm
        rw [List.filterMap_cons, rest, List.head?_cons, Option.bind_some]
        cases frame.call? <;> rfl
  rw [begun?_of_frames popped pushed below before frames single moved, underWay, underWay, before,
    frames, List.filterMap_append, List.filterMap_append, List.filterMap_eq_nil_iff.mpr idle, first]
  rfl

theorem Posts.calls {before : Engine} (posts : Posts before after) (answers : List Frame)
    (frames : before.frames = answers ++ engine.frames)
    (silent : ∀ frame ∈ answers, frame.call? = none) (moved : answers = [] → engine.frames = []) :
    after.underWay = (engine.begun? after).toList ++ engine.underWay := by
  cases posts with
  | silent pushed mute calm enrols grown =>
      refine calls_traded [] (pushed ++ answers) engine.frames rfl ?_ (by simp) ?_ (by simp) ?_
      · rw [grown, frames, List.append_assoc]
      · intro frame member
        cases pushed with
        | nil => exact silent frame (List.mem_of_mem_tail member)
        | cons first pushed =>
            rcases List.mem_append.mp member with own | answer
            · exact calm frame own
            · exact silent frame answer
      · intro nothing
        exact moved (List.append_eq_nil_iff.mp (List.append_eq_nil_iff.mp nothing).2).2
  | posts toasts rest mute calm swaps grown =>
      refine calls_traded [] (after.announcement :: (rest ++ answers)) engine.frames rfl ?_ (by simp)
        ?_ (by simp) (by simp)
      · rw [grown, frames, List.cons_append, List.append_assoc]
      · intro frame member
        rcases List.mem_append.mp member with own | answer
        · exact calm frame own
        · exact silent frame answer

theorem Move.calls (move : Move engine .proceed after) :
    after.underWay = (engine.begun? after).toList ++ engine.underWay := by
  have trades {later : Engine} {frame : Frame} {rest : List Frame} (pushed : List Frame)
      (top : engine.frames = frame :: rest) (frames : later.frames = pushed ++ rest)
      (idle : frame.call? = none) (calm : ∀ frame ∈ pushed.tail, frame.call? = none) :
      later.underWay = (engine.begun? later).toList ++ engine.underWay :=
    calls_traded [frame] pushed rest top frames (by simpa using idle) calm (by simp) (by simp)
  have hooked (hook : Option Hook) (call : Hook → Call) (last : Frame) (idle : last.call? = none) :
      ∀ frame ∈ (callback hook call ++ [last]).tail, frame.call? = none := by
    cases hook <;> simp [callback, idle]
  cases move with
  | published version snapshot pending rest top served => exact trades [] top rfl rfl (by simp)
  | deliver version snapshot listener pending rest top current =>
      exact trades [_, _] top rfl rfl (by simp [Frame.call?])
  | arm id lifespan rest top =>
      obtain ⟨countdowns, agenda, shape⟩ := arm_shape { engine with frames := rest } id lifespan
      rw [shape]
      exact trades [] top rfl rfl (by simp)
  | leave toast cause rest top =>
      cases cause with
      | user => exact trades [.farewell toast] top rfl rfl (by simp)
      | countdown =>
          exact trades (callback toast.onAutoClose (.autoClosed · toast) ++ [.farewell toast]) top
            (List.append_assoc _ [_] rest).symm rfl (hooked _ _ _ rfl)
  | farewell toast rest top =>
      exact trades (callback toast.onDismiss (.dismissed · toast) ++ [.exitWindow toast]) top
        (List.append_assoc _ [_] rest).symm rfl (hooked _ _ _ rfl)
  | exitWindow toast rest top => exact trades [] top rfl rfl (by simp)
  | disarm ids rest top =>
      obtain ⟨countdowns, shape⟩ := disarm_shape { engine with frames := rest } ids
      rw [shape]
      exact trades [] top rfl rfl (by simp)
  | dueDone rest top => exact trades [] top rfl rfl (by simp)
  | dueGone id ids rest top gone => exact trades [_] top rfl rfl (by simp)
  | due toast ids rest after top leaves =>
      exact trades [_, _, _] top leaves.publishes.frames rfl
        (by simp [announcement, Frame.call?])

/-- What is under way after a stride has begun at it, or was under way before and has not been handed
back. -/
theorem Stride.calls (stride : Stride engine event after) :
    (engine.handsBack? event).toList ++ after.underWay =
      (engine.begun? after).toList ++ engine.underWay := by
  cases stride with
  | request operation turn =>
      obtain ⟨answer, posts⟩ := request_posts engine operation
      exact posts.calls [.returned answer] rfl (by simp [Frame.call?]) (by simp)
  | proceed frame rest top work => exact (proceed_move engine frame rest top work).calls
  | handBack frame rest top idle =>
      have silent : engine.begun? engine.resumeTurn = none := by
        rw [resumeTurn_pops top idle]
        exact begun?_of_frames [frame] [] rest top rfl (by simp) (by simp)
      rw [silent, resumeTurn_pops top idle, handsBack?, underWay, underWay, top, List.filterMap_cons,
        List.head?_cons, Option.bind_some]
      cases frame.call? <;> rfl
  | poll place after idle taken =>
      obtain ⟨agenda, posts⟩ := pollAt?_posts taken
      exact posts.calls [] rfl (by simp) fun _ => idle
  | pass moment idle later =>
      exact calls_traded [] [] [] idle idle (by simp) (by simp) (by simp) (by simp)

namespace Run

variable {start finish : Engine}

def callsBegun {finish : Engine} : Run start finish → List Call
  | .start => []
  | @Run.next _ engine after run _ _ => run.callsBegun ++ (engine.begun? after).toList

def callsEnded {finish : Engine} : Run start finish → List Call
  | .start => []
  | @Run.next _ engine _ run event _ => run.callsEnded ++ (engine.handsBack? event).toList

/-- Whatever is under way in a run, or has been handed back, has begun in it, or was under way at its
start. -/
theorem calls_add_up (run : Run start finish) :
    (run.callsEnded ++ finish.underWay).Perm (run.callsBegun ++ start.underWay) := by
  induction run with
  | start => exact .refl _
  | @next engine after run event stride ih =>
      calc
        List.Perm _ (run.callsEnded ++ ((engine.begun? after).toList ++ engine.underWay)) := by
          rw [callsEnded, List.append_assoc, stride.calls]
        List.Perm _ ((engine.begun? after).toList ++ (run.callsEnded ++ engine.underWay)) := by
          rw [← List.append_assoc, ← List.append_assoc]
          exact List.perm_append_comm.append_right _
        List.Perm _ ((engine.begun? after).toList ++ (run.callsBegun ++ start.underWay)) :=
          ih.append_left _
        List.Perm _ ((run.next event stride).callsBegun ++ start.underWay) := by
          rw [callsBegun, ← List.append_assoc]
          exact List.perm_append_comm.append_right _

theorem calls_counted {settings : Settings} {defaults : Defaults} {now : Nat}
    (run : Run (fresh settings defaults now) finish) :
    run.callsBegun.Perm (run.callsEnded ++ finish.underWay) := by
  simpa [underWay, fresh] using run.calls_add_up.symm

end Run

end Engine

end Toasts

import Toasts.Proofs.Lifetimes
import Toasts.Proofs.Showings

/-!
Runs that go on. A call that a caller starts at rest, and whose listeners ask for nothing, is the
sequel of the run before it: no time passes in it, and once it has returned the engine is at rest
again. So a countdown that the call has begun anew has all of its lifespan left then, and from there
on what is left is counted from the end of the call; every other countdown is as it was.
-/

namespace Toasts

theorem Event.isManaged_of_own {event : Event} (own : event.isRequest = false) :
    event.isManaged = true := by
  cases event <;> first | rfl | cases own

namespace Engine

theorem AtRest.returned {before final : Engine} {answer : Answer} (rest : before.AtRest)
    (frames : final.frames = .returned answer :: before.frames) : final.AtRest := by
  rw [AtRest, frames]
  exact List.forall_mem_cons.mpr ⟨rfl, rest⟩

namespace Run

variable {start middle finish : Engine} {id : ToastId}

def append (run : Run start middle) {finish : Engine} : Run middle finish → Run start finish
  | .start => run
  | .next sequel event stride => (run.append sequel).next event stride

theorem All.append {sort : Engine → Event → Prop} {run : Run start middle}
    {sequel : Run middle finish} (every : run.All sort) (later : sequel.All sort) :
    (run.append sequel).All sort := by
  induction sequel with
  | start => exact every
  | next sequel event stride ih => exact ⟨ih later.1, later.2⟩

theorem age_append (run : Run start middle) (sequel : Run middle finish) (young : run.age id = 0) :
    (run.append sequel).age id = sequel.age id := by
  induction sequel with
  | start => exact young
  | next sequel event stride ih => rw [append, age, age, ih]

theorem lifetime?_append (run : Run start middle) (sequel : Run middle finish)
    (young : run.age id = 0) : (run.append sequel).lifetime? id = sequel.lifetime? id := by
  rw [lifetime?, lifetime?, age_append run sequel young]

section Quiet

variable {below : List Frame} {call : Run start finish}

theorem Quiet.passive (quiet : call.Quiet below) : call.Passive := by
  refine All.mono quiet fun _ event both => ⟨Event.isManaged_of_own both.1, fun request => ?_⟩
  rw [both.1] at request
  cases request

theorem busy_of_longer {engine : Engine} (longer : below.length < engine.frames.length) :
    engine.frames ≠ [] :=
  List.ne_nil_of_length_pos (Nat.zero_lt_of_lt longer)

theorem Quiet.age_zero (quiet : call.Quiet below) (id : ToastId) : call.age id = 0 := by
  induction call with
  | start => rfl
  | next call event stride ih =>
      exact age_stays stride (Event.isManaged_of_own quiet.2.1) (ih quiet.1)
        (busy_of_longer quiet.2.2)

theorem Quiet.now (quiet : call.Quiet below) : finish.now = start.now := by
  induction call with
  | start => rfl
  | next call event stride ih =>
      have still := (stride.move (Event.isManaged_of_own quiet.2.1)).now fun moment same => by
        subst same
        cases stride with
        | pass moment idle later => exact busy_of_longer quiet.2.2 idle
      exact still.trans (ih quiet.1)

end Quiet

variable {settings : Settings} {defaults : Defaults} {now : Nat}
  {before after final : Engine} {below : List Frame} {operation : Operation} {answer : Answer}
  {run : Run (fresh settings defaults now) before} {stride : Stride before (.request operation) after}
  {call : Run after final}

theorem Quiet.lifetime? {run : Run (fresh settings defaults now) middle} {call : Run middle finish}
    (quiet : call.Quiet below) (calm : middle.Calm below) (id : ToastId) :
    (run.append call).lifetime? id = run.lifetime? id := by
  induction call with
  | start => rfl
  | next call event stride ih =>
      have steady := stride.calmly quiet.2.1 quiet.2.2 (Quiet.calm quiet.1 calm).1
      have timeless := stride.elapsed_zero (Event.isManaged_of_own quiet.2.1)
        (busy_of_longer quiet.2.2)
      exact (lifetime?_next _ stride (get?_congr steady.2 id) timeless).trans (ih quiet.1)

theorem Passive.request (passive : run.Passive) (rest : before.AtRest)
    (managed : operation.isWrite = false) : (run.next _ stride).Passive :=
  ⟨passive, by simp [Event.isManaged, managed], fun _ => rest⟩

/-- What is left of the countdown of a toast that a call has put up or revised: all of its lifespan,
once the call has returned, and after that what has not passed since. -/
theorem Returns.remaining?_new (returns : call.Returns (.returned answer :: before.frames))
    (passive : run.Passive) (rest : before.AtRest) (managed : operation.isWrite = false)
    (stride : Stride before (.request operation) after) (new : ¬SameEdition before after id) :
    final.remaining? id = final.called id ∧
      ∀ {last} (later : Run final last), later.Passive → last.AtRest →
        last.remaining? id = later.lifetime? id := by
  have first : (run.next _ stride).age id = 0 := age_next_new run stride new
  have young : ((run.next _ stride).append call).age id = 0 := by
    rw [age_append _ call first, returns.1.age_zero]
  have whole : ((run.next _ stride).append call).Passive :=
    All.append (Passive.request passive rest managed) returns.1.passive
  have ended : final.AtRest := rest.returned returns.2
  refine ⟨?_, fun {last} later quiet calm => ?_⟩
  · rw [remaining?_lifetime _ whole.managed (whole.apart id) ended, Run.lifetime?, young]
    cases final.called id with
    | none => rfl
    | some span =>
        rw [Option.map_some, Nat.zero_mul]
        rfl
  · have all : Passive (((run.next _ stride).append call).append later) := All.append whole quiet
    rw [remaining?_lifetime _ all.managed (all.apart id) calm, lifetime?_append _ later young]

theorem Returns.remaining?_same (returns : call.Returns (.returned answer :: before.frames))
    (passive : run.Passive) (rest : before.AtRest) (managed : operation.isWrite = false)
    (stride : Stride before (.request operation) after)
    (calm : after.Calm (.returned answer :: before.frames))
    (look : after.get? id = before.get? id) : final.remaining? id = before.remaining? id := by
  have whole : ((run.next _ stride).append call).Passive :=
    All.append (Passive.request passive rest managed) returns.1.passive
  have timeless : before.elapsed after = 0 :=
    Engine.elapsed_zero ((stride.move (by simp [Event.isManaged, managed])).now nofun)
  calc final.remaining? id
    _ = ((run.next _ stride).append call).lifetime? id :=
        remaining?_lifetime _ whole.managed (whole.apart id) (rest.returned returns.2)
    _ = (run.next _ stride).lifetime? id := returns.1.lifetime? calm id
    _ = run.lifetime? id := lifetime?_next run stride look timeless
    _ = before.remaining? id :=
        (remaining?_lifetime run passive.managed (passive.apart id) rest).symm

end Run

end Engine

end Toasts

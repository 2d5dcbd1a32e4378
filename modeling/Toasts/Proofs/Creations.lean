import Toasts.Proofs.Partings

/-!
Toasts and their creation. A toast goes by the number of its creation, which every revision of its
record keeps, while its identity may come to stand for a toast that is created later. No stride turns
a record into one of an older toast, or brings back a toast that has begun its exit.
-/

namespace Toasts

namespace Engine

variable {engine after : Engine} {event : Event} {birth : Nat} {id : ToastId}

def Shown (engine : Engine) (birth : Nat) : Prop :=
  ∃ toast ∈ engine.store.toasts, toast.birth = birth ∧ toast.exiting = false

/-- Under an identity is a new creation, or the same toast as before, which has not come back from
its exit. -/
def Descends (engine after : Engine) : Prop :=
  ∀ id toast, after.get? id = some toast →
    (engine.numbers < toast.birth ∧ toast.birth ≤ after.numbers) ∨
      ∃ old, engine.get? id = some old ∧ toast.birth = old.birth ∧
        (old.exiting = true → toast.exiting = true)

theorem descends_of_kept
    (kept : ∀ id toast, after.get? id = some toast → engine.get? id = some toast) :
    Descends engine after :=
  fun id toast present => .inr ⟨toast, kept id toast present, rfl, fun exiting => exiting⟩

theorem descends_of_toasts (toasts : after.store.toasts = engine.store.toasts) :
    Descends engine after :=
  descends_of_kept fun id _ present => get?_congr toasts id ▸ present

theorem Orderly.descends_filter {kept : Toast → Bool} (orderly : Orderly engine)
    (toasts : after.store.toasts = engine.store.toasts.filter kept) : Descends engine after := by
  apply descends_of_kept
  intro id toast present
  rw [orderly.get?_filter toasts id] at present
  exact (Option.filter_eq_some_iff.mp present).1

theorem descends_replaced {toast revised : Toast} (found : engine.get? toast.id = some toast)
    (same : revised.id = toast.id)
    (toasts : after.store.toasts = Store.replaceFirst toast.id revised engine.store.toasts)
    (birth : revised.birth = toast.birth)
    (exiting : toast.exiting = true → revised.exiting = true) : Descends engine after := by
  intro id now present
  rw [get?_replaced found same toasts id] at present
  split at present
  next hit =>
      obtain rfl := Option.some.inj present
      exact .inr ⟨toast, hit ▸ found, birth, exiting⟩
  next => exact .inr ⟨now, present, rfl, fun exiting => exiting⟩

theorem Shows.descends (shows : Shows engine after) : Descends engine after := by
  cases shows with
  | revise toast revised options number found live made new publishes =>
      subst made
      refine descends_replaced found ?_ publishes.toasts ?_ fun exiting => ?_
      · rfl
      · rfl
      · rw [live] at exiting
        cases exiting
  | append toast options number made new publishes =>
      intro id now present
      rw [get?_put publishes.toasts id] at present
      split at present
      next =>
          obtain rfl := Option.some.inj present
          rw [made]
          exact .inl new
      next => exact .inr ⟨now, present, rfl, fun exiting => exiting⟩

theorem Leaves.descends {before : Engine} {toast : Toast} {cause : Cause}
    (leaves : Leaves before after toast cause) (store : before.store = engine.store) :
    Descends engine after := by
  have toasts := leaves.publishes.toasts
  rw [store] at toasts
  refine descends_replaced (leaves.look store).1 ?_ toasts ?_ fun _ => ?_ <;> rfl

theorem Effect.descends (effect : Effect engine after) (orderly : Orderly engine) :
    Descends engine after := by
  cases effect with
  | calm pushed outside steady toasts version countdowns agenda frames =>
      exact descends_of_toasts toasts
  | shows shows => exact shows.descends
  | leaves toast leaves => exact leaves.descends rfl
  | clears position publishes => exact orderly.descends_filter publishes.toasts
  | spares position spared same =>
      subst same
      exact descends_of_toasts rfl
  | paints toast painted found made publishes =>
      obtain ⟨lifecycle, _, rfl⟩ := Option.map_eq_some_iff.mp made
      refine descends_replaced found ?_ publishes.toasts ?_ fun exiting => exiting <;> rfl
  | pauses same =>
      subst same
      exact descends_of_toasts rfl
  | resumes same =>
      subst same
      exact descends_of_toasts rfl

theorem Move.descends (move : Move engine event after) (orderly : Orderly engine) :
    Descends engine after := by
  cases move with
  | request operation after answer turn effect => exact effect.descends (orderly.answering answer)
  | arm id lifespan rest top =>
      obtain ⟨countdowns, agenda, shape⟩ := arm_shape { engine with frames := rest } id lifespan
      rw [shape]
      exact descends_of_toasts rfl
  | disarm ids rest top =>
      obtain ⟨countdowns, shape⟩ := disarm_shape { engine with frames := rest } ids
      rw [shape]
      exact descends_of_toasts rfl
  | due toast ids rest after top leaves => exact leaves.descends rfl
  | expire place agenda toast generation countdowns countdown after idle taken expired leaves =>
      exact leaves.descends rfl
  | remove place agenda id edition after idle taken publishes =>
      exact orderly.descends_filter publishes.toasts
  | _ => exact descends_of_toasts rfl

theorem Parts.numbers (parts : Parts engine event after) : engine.numbers ≤ after.numbers := by
  cases parts with
  | quiet quiet numbers owes => exact numbers
  | leaves before toast cause leaves store numbers origin depth owes =>
      rw [← numbers]
      exact leaves.publishes.numbers

theorem Move.numbers (move : Move engine event after) (orderly : Orderly engine) :
    engine.numbers ≤ after.numbers :=
  (move.parts orderly).numbers

/-- A number has been given out, and under the identity is no older toast than the one created under
it. -/
def NoOlder (id : ToastId) (birth : Nat) (engine : Engine) : Prop :=
  birth ≤ engine.numbers ∧ ∀ toast, engine.get? id = some toast → birth ≤ toast.birth

theorem Move.noOlder (move : Move engine event after) (orderly : Orderly engine)
    (before : NoOlder id birth engine) : NoOlder id birth after := by
  obtain ⟨given, young⟩ := before
  refine ⟨Nat.le_trans given (move.numbers orderly), fun toast present => ?_⟩
  rcases move.descends orderly id toast present with new | ⟨old, found, same, _⟩
  · omega
  · rw [same]
    exact young old found

theorem Move.unshown (move : Move engine event after) (orderly : Orderly engine)
    (given : birth ≤ engine.numbers) (gone : ¬ engine.Shown birth) : ¬ after.Shown birth := by
  rintro ⟨toast, member, same, live⟩
  have present := (move.orderly orderly).get?_of_mem member
  rcases move.descends orderly toast.id toast present with new | ⟨old, found, kept, exiting⟩
  · omega
  -- The record goes back to one of the same toast, which would have been as live before.
  · refine gone ⟨old, Store.mem_of_get? found, kept.symm.trans same, ?_⟩
    cases left : old.exiting with
    | false => rfl
    | true =>
        rw [exiting left] at live
        cases live

namespace Run

variable {settings : Settings} {defaults : Defaults} {now : Nat} {start finish : Engine}

theorem births (run : Run (fresh settings defaults now) finish) (managed : run.Managed)
    {toast : Toast} (found : finish.get? id = some toast) : toast.birth ≤ finish.numbers := by
  have kept := run.kept (fun engine => ∀ id toast, engine.get? id = some toast →
    toast.birth ≤ engine.numbers) managed (fresh_orderly settings defaults now)
  refine (kept (fun id toast found => by cases found) ?_).2 id toast found
  intro engine after event move orderly given id toast present
  rcases move.descends orderly id toast present with new | ⟨old, found, same, _⟩
  · exact new.2
  · rw [same]
    exact Nat.le_trans (given id old found) (move.numbers orderly)

theorem noOlder (run : Run start finish) (managed : run.Managed) (orderly : Orderly start)
    (before : NoOlder id birth start) : NoOlder id birth finish :=
  (run.kept (NoOlder id birth) managed orderly before Move.noOlder).2

theorem unshown (run : Run start finish) (managed : run.Managed) (orderly : Orderly start)
    (given : birth ≤ start.numbers) (gone : ¬ start.Shown birth) : ¬ finish.Shown birth := by
  have kept := run.kept (fun engine => birth ≤ engine.numbers ∧ ¬ engine.Shown birth) managed orderly
  refine (kept ⟨given, gone⟩ ?_).2.2
  intro engine after event move orderly both
  exact ⟨Nat.le_trans both.1 (move.numbers orderly), move.unshown orderly both.1 both.2⟩

end Run

end Engine

end Toasts

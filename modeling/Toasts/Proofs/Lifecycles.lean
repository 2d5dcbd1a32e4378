import Toasts.Proofs.Changes

/-!
Lives of records. A record is on its way out exactly when its lifecycle says so. From one snapshot
to the next a record either gives way to one that is created later, or goes on: its lifecycle does
not go back, its birth stays, it does not change at all once it is on its way out, and it is a new
edition exactly when it has been revised.
-/

namespace Toasts

structure Toast.Coherent (toast : Toast) : Prop where
  exiting : toast.exiting = true ↔ toast.lifecycle = .exiting
  present : toast.lifecycle ≠ .removed

structure Toast.Continues (old new : Toast) (revised : Prop) : Prop where
  birth : new.birth = old.birth
  lifecycle : old.lifecycle.rank ≤ new.lifecycle.rank
  exiting : old.exiting = true → new = old
  edition : new.edition ≠ old.edition ↔ revised

namespace Toast

variable {toast painted : Toast} {revised : Prop}

theorem Continues.refl (toast : Toast) (unrevised : ¬ revised) : toast.Continues toast revised where
  birth := rfl
  lifecycle := Nat.le_refl _
  exiting _ := rfl
  edition := by simp [unrevised]

theorem create_coherent (options : Options) (defaults : Defaults) (settings : Settings)
    (screen : Screen) (number : Nat) :
    (create options defaults settings screen number).Coherent := by
  constructor <;> simp [create]

theorem Coherent.revise (coherent : toast.Coherent) (live : toast.exiting = false)
    (options : Options) (settings : Settings) (screen : Screen) (number : Nat) :
    (toast.revise options settings screen number).Coherent := by
  have staying : toast.lifecycle ≠ .exiting := by
    intro same
    rw [coherent.exiting.mpr same] at live
    cases live
  constructor
  · simpa [Toast.revise] using staying
  · exact coherent.present

theorem Coherent.leave (coherent : toast.Coherent) :
    toast.leave.Coherent ∧ toast.lifecycle.rank ≤ toast.leave.lifecycle.rank := by
  have lifecycle : toast.leave.lifecycle = .exiting := by
    have present := coherent.present
    cases stage : toast.lifecycle <;>
      simp_all [Toast.leave, Lifecycle.advance, Lifecycle.rank]
  have rank : toast.lifecycle.rank ≤ Lifecycle.exiting.rank := by
    have present := coherent.present
    cases stage : toast.lifecycle <;> simp_all [Lifecycle.rank]
  refine ⟨⟨?_, ?_⟩, lifecycle ▸ rank⟩
  · simp [lifecycle]
    rfl
  · simp [lifecycle]

theorem Coherent.paint (coherent : toast.Coherent) (made : toast.painted? = some painted) :
    painted.Coherent ∧ toast.lifecycle.rank ≤ painted.lifecycle.rank ∧ toast.exiting = false := by
  obtain ⟨entering, rfl⟩ := painted?_some made
  have live : toast.exiting = false := by
    cases leaving : toast.exiting with
    | false => rfl
    | true => simp [coherent.exiting.mp leaving] at entering
  refine ⟨⟨?_, ?_⟩, ?_, live⟩
  · simp [live]
  · simp
  · simp [entering, Lifecycle.rank]

end Toast

namespace Engine

variable {engine after : Engine} {event : Event} {change : Change} {old new : Toast}

theorem Edits.coherent (edits : Edits engine event after)
    (coherent : ∀ toast ∈ engine.store.toasts, toast.Coherent) :
    ∀ toast ∈ after.store.toasts, toast.Coherent := by
  cases edits with
  | keeps toasts version refused =>
      rw [toasts]
      exact coherent
  | makes change asked made =>
      refine made.each ?_ ?_ ?_ ?_ coherent
      · exact fun options number => Toast.create_coherent _ _ _ _ _
      · exact fun toast options number sound live => sound.revise live _ _ _ _
      · exact fun toast sound => sound.leave.1
      · exact fun toast painted sound made => (sound.paint made).1

/-- Under an identity is a record that is created now, or the same record as before. -/
inductive Passes (engine : Engine) (event : Event) (old new : Toast) : Prop where
  | created (asked : engine.change? event = some (.creation new)) (later : old.birth < new.birth)
  | continues
      (uncreated : ∀ toast, engine.change? event = some (.creation toast) → toast.id ≠ old.id)
      (same : old.Continues new
        (engine.change? event = some (.revision old.id) ∧ old.exiting = false))

theorem replaced_cases {toast revised : Toast} (sought : engine.get? toast.id = some toast)
    (same : revised.id = toast.id) (store : after.store = engine.store.swap
      (Store.replaceFirst toast.id revised engine.store.toasts))
    (found : engine.get? old.id = some old) (present : after.get? old.id = some new) :
    toast = old ∧ new = revised ∨ toast.id ≠ old.id ∧ new = old := by
  have look := get?_replaced sought same (congrArg Store.toasts store) old.id
  by_cases hit : toast.id = old.id
  · rw [hit, found] at sought
    rw [if_pos hit, present] at look
    exact .inl ⟨(Option.some.inj sought).symm, Option.some.inj look⟩
  · rw [if_neg hit, present, found] at look
    exact .inr ⟨hit, Option.some.inj look⟩

theorem Makes.passes (made : Makes engine after change) (asked : engine.change? event = some change)
    (orderly : Orderly engine) (coherent : old.Coherent) (bound : old.birth ≤ engine.numbers)
    (found : engine.get? old.id = some old) (present : after.get? old.id = some new) :
    Passes engine event old new := by
  -- A record that is found again as it was goes on, unless the change is its own revision.
  have stays (same : new = old) (uncreated : ∀ toast, change = .creation toast → toast.id ≠ old.id)
      (unrevised : change ≠ .revision old.id) : Passes engine event old new := by
    subst same
    refine .continues ?_ (.refl new ?_)
    · intro toast created
      exact uncreated toast (Option.some.inj (asked.symm.trans created))
    · rintro ⟨revised, _⟩
      exact unrevised (Option.some.inj (asked.symm.trans revised))
  cases made with
  | revision toast options number sought live given store =>
      rcases replaced_cases sought (by rfl) store found present with ⟨rfl, rfl⟩ | ⟨other, same⟩
      · have newer : number ≠ toast.edition := by
          have numbered := orderly.numbered toast (Store.mem_of_get? found)
          omega
        refine .continues (by simp [asked]) ⟨rfl, Nat.le_refl _, ?_, ?_⟩
        · simp [live]
        · exact iff_of_true newer ⟨asked, live⟩
      · exact stays same (by simp) (by simpa using other)
  | creation toast options number made given store =>
      have look := get?_put (congrArg Store.toasts store) old.id
      by_cases hit : toast.id = old.id
      · rw [if_pos hit, present] at look
        obtain rfl := Option.some.inj look
        have birth : new.birth = number := by rw [made]; rfl
        exact .created asked (by omega)
      · rw [if_neg hit, present, found] at look
        refine stays (Option.some.inj look) ?_ (by simp)
        rintro _ ⟨⟩
        exact hit
  | departure toast sought live store =>
      rcases replaced_cases sought (by rfl) store found present with ⟨rfl, rfl⟩ | ⟨_, same⟩
      · refine .continues (by simp [asked]) ⟨rfl, coherent.leave.2, by simp [live], ?_⟩
        exact iff_of_false (fun edition => edition rfl) (by simp [asked])
      · exact stays same (by simp) (by simp)
  | paint toast painted sought made store =>
      obtain ⟨_, seen⟩ := Toast.painted?_some made
      rcases replaced_cases sought (by rw [seen]) store found present with
        ⟨rfl, rfl⟩ | ⟨_, same⟩
      · obtain ⟨_, forward, live⟩ := coherent.paint made
        subst seen
        refine .continues (by simp [asked]) ⟨rfl, forward, by simp [live], ?_⟩
        exact iff_of_false (fun edition => edition rfl) (by simp [asked])
      · exact stays same (by simp) (by simp)
  | removal doomed some store =>
      have look := orderly.get?_filter (congrArg Store.toasts store) old.id
      rw [present, found] at look
      have kept := (Option.filter_eq_some_iff.mp look.symm).1
      exact stays (Option.some.inj kept).symm (by simp) (by simp)

theorem Edits.passes (edits : Edits engine event after) (orderly : Orderly engine)
    (coherent : old.Coherent) (bound : old.birth ≤ engine.numbers)
    (found : engine.get? old.id = some old) (present : after.get? old.id = some new) :
    Passes engine event old new := by
  cases edits with
  | makes change asked made => exact made.passes asked orderly coherent bound found present
  | keeps toasts version refused =>
      rw [get?_congr toasts, found] at present
      obtain rfl := Option.some.inj present
      refine .continues ?_ (.refl old ?_)
      · intro toast created
        exact (refused _ created).elim
      · rintro ⟨revised, live⟩
        rw [refused _ revised old found] at live
        cases live

namespace Run

variable {settings : Settings} {defaults : Defaults} {now : Nat} {finish : Engine}

theorem coherent (run : Run (fresh settings defaults now) finish) (managed : run.Managed) :
    ∀ toast ∈ finish.store.toasts, toast.Coherent := by
  induction run with
  | start => simp [fresh]
  | next run event stride ih => exact (stride.edits managed.2).coherent (ih managed.1)

/-- Lifecycles only move forward. In every managed run, a record is exiting exactly when its
lifecycle says so, and no record of a snapshot counts as removed. And when a stride follows, a
record that has the identity of an earlier one either is created by it, later than that one, or is
the same record: then its birth is unchanged, its lifecycle has not gone back, it is unchanged
altogether if it was exiting, and it is a new edition exactly when the event is a revision of the
live record. -/
theorem lifecycles_forward (run : Run (fresh settings defaults now) finish)
    (managed : run.Managed) :
    (∀ toast ∈ finish.store.toasts,
      (toast.exiting = true ↔ toast.lifecycle = .exiting) ∧ toast.lifecycle ≠ .removed) ∧
    ∀ {event after}, Stride finish event after → event.isManaged = true →
      ∀ old ∈ finish.store.toasts, ∀ new ∈ after.store.toasts, new.id = old.id →
        Passes finish event old new := by
  have coherent := run.coherent managed
  constructor
  · intro toast member
    exact ⟨(coherent toast member).exiting, (coherent toast member).present⟩
  · intro event after stride kept old member new present same
    have orderly := run.orderly managed
    have found := orderly.get?_of_mem member
    have later := ((stride.move kept).orderly orderly).get?_of_mem present
    rw [same] at later
    exact (stride.edits kept).passes orderly (coherent old member) (run.births managed found) found
      later

def painted : Σ finish, Run (fresh {} {} 0) finish :=
  (Run.start.extend? [.request (.present { id := some (.named "x"), title := some "one" }),
    .proceed, .proceed, .handBack, .request (.markVisible (.named "x")), .proceed,
    .handBack]).get rfl

def retitling : Event := .request (.update (.named "x") { title := some "two" })

theorem retitled_continues : painted.2.Managed ∧ ∃ after, Stride painted.1 retitling after ∧
    ∃ old ∈ painted.1.store.toasts, ∃ new ∈ after.store.toasts, new.id = old.id ∧
      old.lifecycle = .visible ∧ new.title = some "two" ∧ Passes painted.1 retitling old new := by
  have stride : Stride painted.1 retitling _ := follow?_stride rfl
  refine ⟨by decide, _, stride, _, List.mem_cons_self, _, List.mem_cons_self, rfl, rfl, rfl, ?_⟩
  exact (lifecycles_forward painted.2 (by decide)).2 stride rfl _ List.mem_cons_self _
    List.mem_cons_self rfl

end Run

end Engine

end Toasts

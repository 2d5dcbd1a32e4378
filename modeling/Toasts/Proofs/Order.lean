import Toasts.Proofs.Changes

/-!
The order of the records. No two records of a snapshot share an identity, and they stand in the
order in which they were created: read off by identity and birth they are some of the creations of
the run, one after the other. A record that changes does so in its place, a new one comes last, and
those that stay when others go keep their order.
-/

namespace Toasts

/-- What a record keeps for life. -/
def Toast.origin (toast : Toast) : ToastId × Nat := (toast.id, toast.birth)

/-- One record gives way to another version of itself, and all others stay, each in its place. -/
def InPlace (id : ToastId) (before after : List Toast) : Prop :=
  ∃ above old new below, before = above ++ old :: below ∧ after = above ++ new :: below ∧
    old.id = id ∧ new.origin = old.origin ∧ new ≠ old

namespace Change

def Turns (before after : List Toast) : Change → Prop
  | .revision id => InPlace id before after
  | .departure id => InPlace id before after
  | .paint id => InPlace id before after
  | .creation toast => after = before.filter (·.id ≠ toast.id) ++ [toast]
  | .removal doomed => after = before.filter (!doomed ·)

def created : Change → List Toast
  | .creation toast => [toast]
  | _ => []

variable {change : Change} {before after : List Toast} {id : ToastId}

theorem origins_inPlace (inPlace : InPlace id before after) :
    after.map Toast.origin = before.map Toast.origin := by
  obtain ⟨above, old, new, below, rfl, rfl, _, same, _⟩ := inPlace
  simp [same]

/-- No change brings a record in but a creation, and none brings records out of their order. -/
theorem Turns.origins (turns : change.Turns before after) :
    (after.map Toast.origin).Sublist ((before ++ change.created).map Toast.origin) := by
  cases change with
  | revision id => simp [created, origins_inPlace turns]
  | departure id => simp [created, origins_inPlace turns]
  | paint id => simp [created, origins_inPlace turns]
  | creation toast =>
      rw [show after = _ from turns]
      exact (List.filter_sublist.append (List.Sublist.refl _)).map _
  | removal doomed =>
      rw [show after = _ from turns]
      simpa [created] using List.filter_sublist.map Toast.origin

end Change

namespace Engine

variable {engine after : Engine} {event : Event} {change : Change} {toast revised : Toast}

def creations (engine : Engine) (event : Event) : List Toast :=
  (engine.change? event).toList.flatMap Change.created

theorem creations_some (asked : engine.change? event = some change) :
    engine.creations event = change.created := by
  simp [creations, asked]

theorem creations_refused
    (refused : ∀ change, engine.change? event = some change → engine.Refuses change) :
    engine.creations event = [] := by
  cases asked : engine.change? event with
  | none => simp [creations, asked]
  | some change =>
      rw [creations_some asked]
      cases change with
      | creation toast => exact (refused _ asked).elim
      | _ => rfl

theorem inPlace_replaced (found : engine.get? toast.id = some toast)
    (origin : revised.origin = toast.origin) (changed : revised ≠ toast)
    (store : after.store = engine.store.swap
      (Store.replaceFirst toast.id revised engine.store.toasts)) :
    InPlace toast.id engine.store.toasts after.store.toasts := by
  obtain ⟨above, below, split, same, _, replaced⟩ := Store.find?_split found
  exact ⟨above, toast, revised, below, split, by rw [store]; exact replaced revised, same, origin,
    changed⟩

theorem Makes.turns (made : Makes engine after change) (orderly : Orderly engine) :
    change.Turns engine.store.toasts after.store.toasts ∧
      after.store.version = engine.store.version + 1 := by
  cases made with
  | revision toast options number found live new store =>
      have numbered := orderly.numbered toast (Store.mem_of_get? found)
      refine ⟨inPlace_replaced found (by rfl) ?_ store, by rw [store]; rfl⟩
      intro same
      have edition := congrArg Toast.edition same
      simp only [Toast.revise] at edition
      omega
  | creation toast options number made new store => exact ⟨by rw [store]; rfl, by rw [store]; rfl⟩
  | departure toast found live store =>
      refine ⟨inPlace_replaced found (by rfl) ?_ store, by rw [store]; rfl⟩
      intro same
      have exiting : toast.exiting = true := (congrArg Toast.exiting same).symm
      simp [live] at exiting
  | paint toast painted found made store =>
      obtain ⟨entering, rfl⟩ := Toast.painted?_some made
      refine ⟨inPlace_replaced found (by rfl) ?_ store, by rw [store]; rfl⟩
      intro same
      have stays : .visible = toast.lifecycle := congrArg Toast.lifecycle same
      rw [entering] at stays
      cases stays
  | removal doomed some store => exact ⟨by rw [store]; rfl, by rw [store]; rfl⟩

namespace Run

variable {settings : Settings} {defaults : Defaults} {now : Nat} {start finish : Engine}

def created {finish : Engine} : Run start finish → List Toast
  | .start => []
  | @Run.next _ engine _ run event _ => run.created ++ engine.creations event

/-- The creations of a run are numbered in their order, and the records of its end are some of them,
in the same order. -/
structure InOrder (run : Run start finish) : Prop where
  given : ∀ toast ∈ run.created, toast.birth ≤ finish.numbers
  later : run.created.Pairwise fun earlier later => earlier.birth < later.birth
  kept : (finish.store.toasts.map Toast.origin).Sublist (run.created.map Toast.origin)

theorem InOrder.next {engine after : Engine} {event : Event} {run : Run start engine}
    (inOrder : run.InOrder) (orderly : Orderly engine) (stride : Stride engine event after)
    (managed : event.isManaged = true) : (run.next event stride).InOrder := by
  have numbers := (stride.move managed).numbers orderly
  have older : ∀ toast ∈ run.created, toast.birth ≤ after.numbers :=
    fun toast member => Nat.le_trans (inOrder.given toast member) numbers
  cases stride.edits managed with
  | keeps toasts version refused =>
      have same : (run.next event stride).created = run.created := by
        rw [created, creations_refused refused, List.append_nil]
      constructor
      · rwa [same]
      · rw [same]
        exact inOrder.later
      · rw [same, toasts]
        exact inOrder.kept
  | makes change asked made =>
      have more : (run.next event stride).created = run.created ++ change.created := by
        rw [created, creations_some asked]
      have turns := (made.turns orderly).1
      -- Only a creation adds to the creations of the run, and its number is new.
      have fresh : ∀ toast ∈ change.created,
          engine.numbers < toast.birth ∧ toast.birth ≤ after.numbers := by
        intro toast member
        cases made with
        | creation other options number built new store =>
            rw [List.mem_singleton.mp member, built]
            exact new
        | _ => cases member
      constructor
      · rw [more]
        intro toast member
        rcases List.mem_append.mp member with old | new
        · exact older toast old
        · exact (fresh toast new).2
      · rw [more]
        refine List.pairwise_append.mpr ⟨inOrder.later, ?_, ?_⟩
        · cases change with
          | creation toast => exact List.pairwise_singleton _ _
          | _ => exact List.Pairwise.nil
        · intro earlier old toast new
          exact Nat.lt_of_le_of_lt (inOrder.given earlier old) (fresh toast new).1
      · rw [more, List.map_append]
        refine turns.origins.trans ?_
        rw [List.map_append]
        exact inOrder.kept.append (List.Sublist.refl _)

theorem inOrder (run : Run (fresh settings defaults now) finish) (managed : run.Managed) :
    run.InOrder := by
  induction run with
  | start => exact ⟨by simp [created], List.Pairwise.nil, List.Sublist.refl _⟩
  | next run event stride ih => exact (ih managed.1).next (run.orderly managed.1) stride managed.2

theorem InOrder.sorted {run : Run start finish} (inOrder : run.InOrder) :
    finish.store.toasts.Pairwise fun earlier later => earlier.birth < later.birth := by
  have births : (run.created.map Toast.origin).Pairwise fun earlier later =>
      earlier.2 < later.2 := List.pairwise_map.mpr inOrder.later
  have kept := births.sublist inOrder.kept
  rwa [List.pairwise_map] at kept

/-- The list of toasts is free of duplicates and ordered by creation. In every managed run, no two
records share an identity, and by identity and birth they are some of the creations of the run, in
the order of these, which is that of their births. A stride makes the one new snapshot that its event
asks for, unless it asks for none or for one that is refused: a revision, a dismissal or a first paint
changes exactly one record, in its place; a creation is never refused, takes away at most the record
with its identity, and appends; a removal keeps the others in their order. -/
theorem toasts_in_order (run : Run (fresh settings defaults now) finish) (managed : run.Managed) :
    (finish.store.toasts.map (·.id)).Nodup ∧
    (finish.store.toasts.map Toast.origin).Sublist (run.created.map Toast.origin) ∧
    (run.created.Pairwise fun earlier later => earlier.birth < later.birth) ∧
    ∀ {event after}, Stride finish event after → event.isManaged = true →
      (after.store.toasts = finish.store.toasts ∧ after.store.version = finish.store.version ∧
        ∀ change, finish.change? event = some change → finish.Refuses change) ∨
      ∃ change, finish.change? event = some change ∧
        after.store.version = finish.store.version + 1 ∧
        change.Turns finish.store.toasts after.store.toasts := by
  have inOrder := run.inOrder managed
  have orderly := run.orderly managed
  refine ⟨orderly.ids, inOrder.kept, inOrder.later, ?_⟩
  intro event after stride kept
  cases stride.edits kept with
  | keeps toasts version refused => exact .inl ⟨toasts, version, refused⟩
  | makes change asked made =>
      obtain ⟨turns, version⟩ := made.turns orderly
      exact .inr ⟨change, asked, version, turns⟩

/-- Two toasts are shown, and the first one is dismissed and shown anew during its exit. -/
def shownAnew : Σ finish, Run (fresh {} {} 0) finish :=
  (Run.start.extend? [
    .request (.present { id := some (.named "a") }), .proceed, .proceed, .handBack,
    .request (.present { id := some (.named "b") }), .proceed, .proceed, .handBack,
    .request (.dismiss (.named "a")), .proceed, .proceed, .proceed, .proceed, .handBack,
    .request (.present { id := some (.named "a") }), .proceed, .proceed, .handBack]).get rfl

def retitlingFirst : Event := .request (.update (.named "b") { title := some "two" })

theorem shownAnew_in_order : shownAnew.2.Managed ∧
    shownAnew.2.created.map Toast.origin = [(.named "a", 1), (.named "b", 2), (.named "a", 3)] ∧
    shownAnew.1.store.toasts.map Toast.origin = [(.named "b", 2), (.named "a", 3)] ∧
    (shownAnew.1.store.toasts.map Toast.origin).Sublist
      (shownAnew.2.created.map Toast.origin) ∧
    ∃ after, Stride shownAnew.1 retitlingFirst after ∧
      InPlace (.named "b") shownAnew.1.store.toasts after.store.toasts := by
  obtain ⟨_, kept, _, strides⟩ := toasts_in_order shownAnew.2 (by decide)
  have stride : Stride shownAnew.1 retitlingFirst _ := follow?_stride rfl
  refine ⟨by decide, rfl, rfl, kept, _, stride, ?_⟩
  rcases strides stride rfl with ⟨_, version, _⟩ | ⟨change, asked, _, turns⟩
  · exact absurd version (by decide)
  · obtain rfl := Option.some.inj asked
    exact turns

end Run

end Engine

end Toasts

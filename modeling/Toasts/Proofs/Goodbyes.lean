import Toasts.Proofs.Calls
import Toasts.Proofs.Partings

/-!
Goodbyes over whole runs. What has been said and what is still owed together are what the dismissals
have promised, stride by stride. An edition that has begun its exit is never live again, so nothing
more is ever promised to it; and what is owed to it lies on the stack just where its dismissal does,
so it has been said when the call that made the dismissal returns.
-/

namespace Toasts

theorem Toast.parted?_lastCalls {toast : Toast} {cause : Cause} {call : Call}
    (member : call ∈ toast.lastCalls cause) : call.parted? = some toast.edition := by
  rcases List.mem_append.mp member with closing | leaving
  · cases cause with
    | user => cases closing
    | countdown =>
        obtain ⟨hook, _, rfl⟩ := List.mem_map.mp closing
        rfl
  · obtain ⟨hook, _, rfl⟩ := List.mem_map.mp leaving
    rfl

theorem Dismissal.isOf_owed {dismissal : Dismissal} {goodbye : Goodbye}
    (member : goodbye ∈ dismissal.owed) (edition : Nat) :
    goodbye.isOf edition = (dismissal.toast.edition == edition) := by
  obtain ⟨call, among, rfl⟩ := List.mem_map.mp member
  simp [Goodbye.isOf, Toast.parted?_lastCalls among]

theorem Dismissal.depth_owed {dismissal : Dismissal} {goodbye : Goodbye}
    (member : goodbye ∈ dismissal.owed) : goodbye.depth = dismissal.depth := by
  obtain ⟨call, _, rfl⟩ := List.mem_map.mp member
  rfl

namespace Engine

variable {engine after : Engine} {event : Event} {edition : Nat}

/-- An edition has been given out, and no live record has it any more. -/
def Outlived (engine : Engine) (edition : Nat) : Prop :=
  edition ≤ engine.numbers ∧
    ∀ id toast, engine.get? id = some toast → toast.edition = edition → toast.exiting = true

theorem Quiet.outlived (quiet : Quiet engine after) (numbers : engine.numbers ≤ after.numbers)
    (outlived : Outlived engine edition) : Outlived after edition := by
  obtain ⟨bound, gone⟩ := outlived
  refine ⟨Nat.le_trans bound numbers, fun id toast present same => ?_⟩
  rcases quiet id toast present with ⟨new, _⟩ | ⟨old, found, kept, exiting⟩
  · omega
  · rw [exiting]
    exact gone id old found (kept.symm.trans same)

theorem Leaves.outlived {before : Engine} {toast : Toast} {cause : Cause}
    (leaves : Leaves before after toast cause) (store : before.store = engine.store)
    (numbers : before.numbers = engine.numbers) (orderly : Orderly engine)
    (past : Outlived engine edition ∨ edition = toast.edition) : Outlived after edition := by
  obtain ⟨found, look⟩ := leaves.look store
  have member := Store.mem_of_get? found
  have bound : edition ≤ engine.numbers := by
    rcases past with outlived | rfl
    · exact outlived.1
    · exact orderly.numbered toast member
  have later := leaves.publishes.numbers
  refine ⟨by omega, fun id other present twin => ?_⟩
  rw [look id] at present
  by_cases hit : toast.id = id
  · obtain rfl : toast.leave = other := by simpa [hit] using present
    rfl
  · rw [if_neg hit] at present
    rcases past with outlived | rfl
    · exact outlived.2 id other present twin
    · have twins := orderly.eq_of_edition (Store.mem_of_get? present) member twin
      exact absurd (twins ▸ Store.id_of_get? present) hit

theorem Parts.outlived (parts : Parts engine event after) (orderly : Orderly engine)
    (outlived : Outlived engine edition) : Outlived after edition := by
  cases parts with
  | quiet quiet numbers owes => exact quiet.outlived numbers outlived
  | leaves before toast cause leaves store numbers origin depth owes =>
      exact leaves.outlived store numbers orderly (.inl outlived)

/-- A stride that makes a dismissal begins no call; it makes that dismissal alone, of a live record,
and owes for it on top of what was owed. -/
theorem Parts.made {dismissal : Dismissal} (parts : Parts engine event after)
    (orderly : Orderly engine) (member : dismissal ∈ engine.dismissals event after) :
    engine.dismissals event after = [dismissal] ∧ engine.goodbye? after = none ∧
      engine.get? dismissal.toast.id = some dismissal.toast ∧ dismissal.toast.exiting = false ∧
      Outlived after dismissal.toast.edition ∧
      owed after.frames = dismissal.owed ++ owed engine.frames := by
  cases parts with
  | quiet quiet numbers owes =>
      rw [dismissals, quiet.departed orderly] at member
      cases member
  | leaves before toast cause leaves store numbers origin depth owes =>
      have only := leaves.departed store orderly
      have frames := leaves.publishes.frames
      rw [dismissals, only, List.map_singleton, ← origin.cause, ← depth] at member ⊢
      obtain rfl := List.mem_singleton.mp member
      refine ⟨rfl, ?_, (leaves.look store).1, leaves.live,
        leaves.outlived store numbers orderly (.inr rfl), ?_⟩
      · exact goodbye?_silent (begun?_of_head (by rw [frames]; rfl))
      · rw [frames, owed_cons, owed_cons, owes]
        rfl

/-- What is said at a stride and what is owed after it are what is promised at it and what was owed
before. -/
theorem Parts.balance (parts : Parts engine event after) (orderly : Orderly engine) :
    (engine.goodbye? after).toList ++ owed after.frames =
      (engine.dismissals event after).flatMap Dismissal.owed ++ owed engine.frames := by
  cases made : engine.dismissals event after with
  | nil =>
      cases parts with
      | quiet quiet numbers owes => exact owes
      | leaves before toast cause leaves store numbers origin depth owes =>
          have only := leaves.departed store orderly
          simp [Engine.dismissals, only] at made
  | cons dismissal rest =>
      obtain ⟨only, silent, _, _, _, owes⟩ := parts.made orderly (made ▸ List.mem_cons_self)
      obtain ⟨_, rfl⟩ := List.cons.inj (made.symm.trans only)
      simp [silent, owes]

namespace Run

variable {start finish : Engine}

def dismissals {finish : Engine} : Run start finish → List Dismissal
  | .start => []
  | @Run.next _ engine after run event _ => run.dismissals ++ engine.dismissals event after

def goodbyes {finish : Engine} : Run start finish → List Goodbye
  | .start => []
  | @Run.next _ engine after run _ _ => run.goodbyes ++ (engine.goodbye? after).toList

theorem goodbyes_begun (run : Run start finish) :
    run.goodbyes.map Goodbye.call = run.callsBegun.filter (·.parted?.isSome) := by
  induction run with
  | start => rfl
  | @next engine after run event stride ih =>
      have last : (engine.goodbye? after).toList.map Goodbye.call =
          (engine.begun? after).toList.filter (·.parted?.isSome) := by
        rw [goodbye?]
        cases engine.begun? after with
        | none => rfl
        | some call => cases said : call.parted?.isSome <;> simp [Option.filter, said]
      rw [goodbyes, callsBegun, List.map_append, List.filter_append, ih, last]

theorem promised {settings : Settings} {defaults : Defaults} {now : Nat}
    (run : Run (fresh settings defaults now) finish) (managed : run.Managed) :
    (∀ goodbye ∈ run.goodbyes ++ owed finish.frames,
      ∃ dismissal ∈ run.dismissals, goodbye ∈ dismissal.owed) ∧
    ∀ dismissal ∈ run.dismissals, Outlived finish dismissal.toast.edition := by
  induction run with
  | start => simp [goodbyes, dismissals, fresh]
  | next run event stride ih =>
      obtain ⟨earlier, past⟩ := ih managed.1
      have orderly := run.orderly managed.1
      have parts := (stride.move managed.2).parts orderly
      constructor
      · intro goodbye member
        -- The balance of the stride tells where a goodbye comes from.
        rw [goodbyes, List.append_assoc, parts.balance orderly] at member
        simp only [dismissals, List.mem_append, List.mem_flatMap] at member ⊢
        rcases member with said | ⟨dismissal, made, promised⟩ | still
        · obtain ⟨dismissal, old, promised⟩ := earlier goodbye (List.mem_append_left _ said)
          exact ⟨dismissal, .inl old, promised⟩
        · exact ⟨dismissal, .inr made, promised⟩
        · obtain ⟨dismissal, old, promised⟩ := earlier goodbye (List.mem_append_right _ still)
          exact ⟨dismissal, .inl old, promised⟩
      · intro dismissal member
        rcases List.mem_append.mp member with old | made
        · exact parts.outlived orderly (past dismissal old)
        · exact (parts.made orderly made).2.2.2.2.1

theorem untold {settings : Settings} {defaults : Defaults} {now : Nat}
    (run : Run (fresh settings defaults now) finish) (managed : run.Managed) {toast : Toast}
    (found : finish.get? toast.id = some toast) (live : toast.exiting = false) :
    (run.goodbyes ++ owed finish.frames).filter (·.isOf toast.edition) = [] := by
  obtain ⟨promised, past⟩ := run.promised managed
  apply List.filter_eq_nil_iff.mpr
  intro goodbye member hit
  obtain ⟨dismissal, made, owes⟩ := promised goodbye member
  rw [Dismissal.isOf_owed owes] at hit
  have exiting := (past dismissal made).2 toast.id toast found (eq_of_beq hit).symm
  rw [live] at exiting
  cases exiting

/-- Once an edition is past, what is said to it is what was owed to it, as far as it is not still
owed. -/
theorem settles {edition : Nat} (run : Run start finish) (managed : run.Managed)
    (orderly : Orderly start) (outlived : Outlived start edition) :
    (Orderly finish ∧ Outlived finish edition) ∧
      (run.goodbyes ++ owed finish.frames).filter (·.isOf edition) =
        (owed start.frames).filter (·.isOf edition) := by
  induction run with
  | start => exact ⟨⟨orderly, outlived⟩, rfl⟩
  | @next engine after run event stride ih =>
      obtain ⟨⟨tidy, past⟩, same⟩ := ih managed.1
      have move := stride.move managed.2
      have parts := move.parts tidy
      -- No later dismissal is of this edition, so it drops out of the balance.
      have others : ((engine.dismissals event after).flatMap Dismissal.owed).filter
          (·.isOf edition) = [] := by
        apply List.filter_eq_nil_iff.mpr
        intro goodbye member hit
        obtain ⟨dismissal, made, owes⟩ := List.mem_flatMap.mp member
        obtain ⟨_, _, found, live, _⟩ := parts.made tidy made
        rw [Dismissal.isOf_owed owes] at hit
        have exiting := past.2 _ _ found (eq_of_beq hit)
        rw [live] at exiting
        cases exiting
      refine ⟨⟨move.orderly tidy, parts.outlived tidy past⟩, ?_⟩
      rw [goodbyes, List.append_assoc, parts.balance tidy, ← same]
      simp [others]

/-- Every dismissal says its goodbyes exactly once, and nothing else does. In every managed run: each
goodbye is owed by a dismissal of the run, the goodbyes are all the calls of callbacks of toasts that
go, and no call escapes the count, since those that begin are those that are handed back and those
under way. When a live record begins its exit, nobody has said goodbye to its edition before; what is
said to it later is what the dismissal owes, in that order, as far as it goes; and all of it has been
said when the call that made the dismissal returns. -/
theorem goodbyes_exact {settings : Settings} {defaults : Defaults} {now : Nat}
    (run : Run (fresh settings defaults now) finish) (managed : run.Managed) :
    (run.callsBegun.Perm (run.callsEnded ++ finish.underWay) ∧
      run.goodbyes.map Goodbye.call = run.callsBegun.filter (·.parted?.isSome)) ∧
    (∀ goodbye ∈ run.goodbyes, ∃ dismissal ∈ run.dismissals, goodbye ∈ dismissal.owed) ∧
    ∀ {event after} (stride : Stride finish event after), event.isManaged = true →
      ∀ dismissal ∈ finish.dismissals event after,
        (run.next event stride).goodbyes.filter (·.isOf dismissal.toast.edition) = [] ∧
        ∀ {last} (later : Run after last), later.Managed →
          later.goodbyes.filter (·.isOf dismissal.toast.edition) <+: dismissal.owed ∧
          (last.frames.length ≤ dismissal.depth →
            later.goodbyes.filter (·.isOf dismissal.toast.edition) = dismissal.owed) := by
  have promised := run.promised managed
  refine ⟨⟨run.calls_counted, run.goodbyes_begun⟩,
    fun goodbye member => promised.1 goodbye (List.mem_append_left _ member), ?_⟩
  intro event after stride kept dismissal member
  have orderly := run.orderly managed
  have move := stride.move kept
  obtain ⟨_, silent, found, live, past, owes⟩ := (move.parts orderly).made orderly member
  have untold := run.untold managed found live
  rw [List.filter_append, List.append_eq_nil_iff] at untold
  refine ⟨by simp [goodbyes, silent, untold.1], @fun last later kept => ?_⟩
  have settled := (later.settles kept (move.orderly orderly) past).2
  have own : dismissal.owed.filter (·.isOf dismissal.toast.edition) = dismissal.owed :=
    List.filter_eq_self.mpr fun goodbye promised => by simp [Dismissal.isOf_owed promised]
  rw [owes, List.filter_append, List.filter_append, own, untold.2, List.append_nil] at settled
  refine ⟨⟨_, settled⟩, fun returned => ?_⟩
  -- What were still owed would lie where the dismissal does, and no frame is left there.
  have none : (owed last.frames).filter (·.isOf dismissal.toast.edition) = [] := by
    apply List.eq_nil_iff_forall_not_mem.mpr
    intro goodbye still
    have among : goodbye ∈ dismissal.owed := settled ▸ List.mem_append_right _ still
    have level := Dismissal.depth_owed among
    have deep := depth_of_mem_owed (List.mem_filter.mp still).1
    omega
  rwa [none, List.append_nil] at settled

def lapsing : Σ finish, Run (fresh {} {} 0) finish :=
  (Run.start.extend? [
    .request (.present { id := some (.named "x"), onDismiss := some ⟨0⟩, onAutoClose := some ⟨1⟩ }),
    .proceed, .proceed, .handBack, .poll 0, .pass 6000]).get rfl

def lapsed : Engine := (lapsing.1.follow? (.poll 0)).get rfl

def lastWords : Σ finish, Run lapsed finish :=
  (Run.start.extend? [.proceed, .proceed, .request (.dismiss (.named "x")), .handBack, .handBack,
    .proceed, .handBack, .proceed]).get rfl

theorem lapsed_goodbyes : lapsing.2.Managed ∧ lastWords.2.Managed ∧
    ∃ dismissal ∈ lapsing.1.dismissals (.poll 0) lapsed,
      dismissal.cause = .countdown ∧ dismissal.owed.length = 2 ∧
      lastWords.2.goodbyes.filter (·.isOf dismissal.toast.edition) = dismissal.owed := by
  have stride : Stride lapsing.1 (.poll 0) lapsed := follow?_stride rfl
  have exactly := (goodbyes_exact lapsing.2 (by decide)).2.2 stride rfl
  refine ⟨by decide, by decide, _, List.mem_cons_self, rfl, rfl, ?_⟩
  exact ((exactly _ List.mem_cons_self).2 lastWords.2 (by decide)).2 (by decide)

end Run

end Engine

end Toasts

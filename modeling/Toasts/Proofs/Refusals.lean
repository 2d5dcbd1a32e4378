import Toasts.Proofs.Deliveries
import Toasts.Proofs.Endings

/-!
Operations that find nothing to do. Such an operation is refused at once: until its answer is taken
the caller does not have the turn, and everything is as it was. Any other dismissal, revision, first
paint or clearing of a position is answered with success and makes one new snapshot; whatever
snapshots come to it before the answer is taken are those of operations that were asked for
meanwhile.
-/

namespace Toasts

namespace Operation

def refusal : Operation → Answer
  | .settle _ outcome => .outcome outcome
  | .clear _ => .toasts []
  | _ => .flag false

def reports : Operation → Bool
  | .update _ _ => true
  | .dismiss _ => true
  | .markVisible _ => true
  | .clear (some _) => true
  | _ => false

end Operation

theorem Toast.painted?_of_entering {toast : Toast} (entering : toast.lifecycle = .entering) :
    toast.painted? = some { toast with lifecycle := .visible } := by
  simp [painted?, entering, Lifecycle.advance, Lifecycle.rank]

theorem Toast.painted?_none {toast : Toast} (past : toast.lifecycle ≠ .entering) :
    toast.painted? = none := by
  cases painted : toast.painted? with
  | none => rfl
  | some made => exact absurd (painted?_some painted).1 past

namespace Engine

variable {engine before after : Engine} {event : Event} {operation : Operation}

/-- There is nothing that an operation could be done to: no live toast under its identity, none that
has not been painted yet, or none at its position. -/
def Futile (engine : Engine) : Operation → Prop
  | .update id _ => ∀ toast, engine.get? id = some toast → toast.exiting = true
  | .dismiss id => ∀ toast, engine.get? id = some toast → toast.exiting = true
  | .markVisible id => ∀ toast, engine.get? id = some toast → toast.lifecycle ≠ .entering
  | .settle number _ => ∀ tracked, engine.promises.find? (·.number = number) = some tracked →
      ∀ toast, engine.get? tracked.toast = some toast → toast.exiting = true
  | .clear (some position) => ∀ toast ∈ engine.store.toasts, toast.position ≠ position
  | _ => False

def success (engine : Engine) : Operation → Answer
  | .clear position => .toasts (engine.store.cleared position)
  | _ => .flag true

def unsettled (engine : Engine) : Operation → List Tracked
  | .settle number _ => engine.promises.filter (·.number ≠ number)
  | _ => engine.promises

def refused (engine : Engine) (operation : Operation) : Engine :=
  { engine with
    promises := engine.unsettled operation
    frames := .returned operation.refusal :: engine.frames }

theorem settle_futile {number : Nat} {outcome : Outcome}
    (futile : engine.Futile (.settle number outcome)) :
    engine.settle number outcome =
      { engine with promises := engine.promises.filter (·.number ≠ number) } := by
  simp only [settle]
  cases found : engine.promises.find? (·.number = number) with
  | none =>
      have others : ∀ tracked ∈ engine.promises, decide (tracked.number ≠ number) = true := by
        simpa using List.find?_eq_none.mp found
      rw [List.filter_eq_self.mpr others]
  | some tracked =>
      have gone : ∀ toast, { engine with
          promises := engine.promises.filter (·.number ≠ number) }.get? tracked.toast = some toast →
          toast.exiting = true := futile tracked found
      simp only [revise?_gone gone, Option.getD_none]

theorem request_futile (futile : engine.Futile operation) :
    engine.request operation = engine.refused operation ∨
      engine.request operation =
        { engine.refused operation with
          frames := .disarm (some []) :: (engine.refused operation).frames } := by
  cases operation with
  | update id options =>
      have gone : ∀ toast, { engine with frames := [] }.get? id = some toast →
          toast.exiting = true := futile
      exact .inl (by simp [request, perform, revise?_gone gone, orRefuse, refused, unsettled,
        Operation.refusal])
  | dismiss id =>
      have gone : ∀ toast, { engine with frames := [] }.get? id = some toast →
          toast.exiting = true := futile
      exact .inl (by simp [request, perform, dismiss?_gone gone, orRefuse, refused, unsettled,
        Operation.refusal])
  | markVisible id =>
      have none : engine.store.update? id Toast.painted? = none := by
        simp only [Store.update?, Option.map_eq_none_iff, Option.bind_eq_none_iff]
        exact fun toast found => Toast.painted?_none (futile toast found)
      exact .inl (by simp [request, perform, none, orRefuse, refused, unsettled,
        Operation.refusal])
  | settle number outcome =>
      have futile' : { engine with frames := [] }.Futile (.settle number outcome) := futile
      exact .inl (by simp [request, perform, settle_futile futile', refused, unsettled,
        Operation.refusal])
  | clear position =>
      cases position with
      | none => cases futile
      | some position =>
          have spared : ∀ toast ∈ engine.store.toasts,
              Store.clears (some position) toast = false := fun toast member => by
            simpa [Store.clears] using futile toast member
          have none : engine.store.clear? (some position) = none := by
            simpa [Store.clear?, Store.removeWhere?] using spared
          have ids : engine.store.cleared (some position) = [] := by
            simpa [Store.cleared] using spared
          exact .inr (by simp [request, perform, none, ids, push, refused, unsettled,
            Operation.refusal])
  | _ => cases futile

structure Begins (engine : Engine) (operation : Operation) : Prop where
  frames : ∃ pushed,
    (engine.request operation).frames =
      pushed ++ .returned (engine.success operation) :: engine.frames ∧
    ∀ frame ∈ pushed, frame.isDue = false
  version : (engine.request operation).store.version = engine.store.version + 1
  succeeded : engine.success operation ≠ operation.refusal

theorem begins_of_perform {later : Engine}
    (performed : { engine with frames := [] }.perform operation =
      (later, engine.success operation))
    (undue : ∀ frame ∈ later.frames, frame.isDue = false)
    (version : later.store.version = engine.store.version + 1)
    (succeeded : engine.success operation ≠ operation.refusal) : engine.Begins operation := by
  have shape : engine.request operation = { later with
      frames := later.frames ++ .returned (engine.success operation) :: engine.frames } := by
    simp [request, performed]
  constructor
  · exact ⟨later.frames, by rw [shape], undue⟩
  · rw [shape]
    exact version
  · exact succeeded

theorem request_begins (reports : operation.reports = true)
    (effective : ¬ engine.Futile operation) : engine.Begins operation := by
  cases operation with
  | update id options =>
      simp only [Futile, not_forall, Bool.not_eq_true] at effective
      obtain ⟨toast, found, live⟩ := effective
      have found' : { engine with frames := [] }.get? id = some toast := found
      apply begins_of_perform (by rw [perform, revise?_live found' live]; rfl)
      · simp [publish, push, announcement, Frame.isDue]
      · rfl
      · simp [success, Operation.refusal]
  | dismiss id =>
      simp only [Futile, not_forall, Bool.not_eq_true] at effective
      obtain ⟨toast, found, live⟩ := effective
      have found' : { engine with frames := [] }.get? id = some toast := found
      apply begins_of_perform (by rw [perform, dismiss?_live found' live]; rfl)
      · simp [publish, push, announcement, Frame.isDue]
      · rfl
      · simp [success, Operation.refusal]
  | markVisible id =>
      simp only [Futile, not_forall, not_not] at effective
      obtain ⟨toast, found, entering⟩ := effective
      have found' : engine.store.get? id = some toast := found
      have painted : engine.store.update? id Toast.painted? = some (engine.store.swap
          (Store.replaceFirst id { toast with lifecycle := .visible } engine.store.toasts)) := by
        simp [Store.update?, found', Toast.painted?_of_entering entering]
      apply begins_of_perform (by rw [perform, painted]; rfl)
      · simp [publish, push, announcement, Frame.isDue]
      · rfl
      · simp [success, Operation.refusal]
  | clear position =>
      cases position with
      | none => cases reports
      | some position =>
          simp only [Futile, not_forall, not_not] at effective
          obtain ⟨toast, member, here⟩ := effective
          have taken : Store.clears (some position) toast = true := by
            simpa [Store.clears] using here
          have cleared : engine.store.clear? (some position) = some (engine.store.swap
              (engine.store.toasts.filter (!Store.clears (some position) ·))) := by
            simp only [Store.clear?, Store.removeWhere?]
            exact if_pos (List.any_eq_true.mpr ⟨toast, member, taken⟩)
          apply begins_of_perform (by simp only [perform, cleared]; rfl)
          · simp [publish, push, announcement, Frame.isDue]
          · rfl
          · have listed : toast.id ∈ engine.store.cleared (some position) :=
              List.mem_map_of_mem (List.mem_filter.mpr ⟨member, taken⟩)
            simpa [success, Operation.refusal] using List.ne_nil_of_mem listed
  | _ => cases reports

/-- A refused operation that has not come to its answer can only stop no countdown. -/
def Refusing (before : Engine) (operation : Operation) (engine : Engine) : Prop :=
  engine = before.refused operation ∨
    engine = { before.refused operation with
      frames := .disarm (some []) :: (before.refused operation).frames }

theorem Stride.refusing (stride : Stride engine event after)
    (refusing : before.Refusing operation engine)
    (busy : (before.refused operation).frames.length < engine.frames.length) :
    before.Refusing operation after := by
  rcases refusing with rfl | rfl
  · exact absurd busy (Nat.lt_irrefl _)
  · cases stride with
    | request operation turn => cases turn
    | proceed frame rest top work => exact .inl rfl
    | handBack frame rest top idle =>
        obtain ⟨rfl, _⟩ := List.cons.inj top
        cases idle
    | poll place after idle taken => cases idle
    | pass moment idle later => cases idle

theorem Refusing.turn (refusing : before.Refusing operation engine) :
    engine.isCallersTurn = false := by
  rcases refusing with rfl | rfl <;> rfl

theorem Refusing.untouched (refusing : before.Refusing operation engine) :
    { engine with frames := [] } = { before.refused operation with frames := [] } := by
  rcases refusing with rfl | rfl <;> rfl

theorem Restacks.dues (restacks : Restacks engine event after) (own : event.isRequest = false) :
    after.frames.countP Frame.isDue ≤ engine.frames.countP Frame.isDue := by
  have none {pushed : List Frame} (undue : ∀ frame ∈ pushed, frame.isDue = false) :
      pushed.countP Frame.isDue = 0 := by simpa [List.countP_eq_zero] using undue
  cases restacks with
  | undue popped pushed below before frames undue =>
      rw [before, frames, List.countP_append, List.countP_append, none undue]
      omega
  | drops id ids pushed rest top frames undue =>
      rw [top, frames, List.countP_append, none undue, List.countP_cons, List.countP_cons]
      simp [Frame.isDue]
  | resumes answer request frames store =>
      rw [own] at request
      cases request

def dismisses (engine : Engine) : Bool := engine.frames.head?.any Frame.isDue

/-- While anything is under way, only operations and dismissals of a resumption make snapshots. -/
theorem Stride.version_same (stride : Stride engine event after) (busy : engine.frames ≠ [])
    (own : event.isRequest = false) (other : engine.dismisses = false) :
    after.store.version = engine.store.version := by
  cases stride.edits (Event.isManaged_of_own own) with
  | keeps toasts version refused => exact version
  | makes change asked made =>
      cases stride with
      | request operation turn => cases own
      | proceed frame rest top work =>
          have undue : frame.isDue = false := by simpa [dismisses, top] using other
          cases frame <;> first | (simp [change?, top] at asked; done) | cases undue
      | handBack frame rest top idle => cases asked
      | poll place after idle taken => exact absurd idle busy
      | pass moment idle later => cases asked

theorem Stride.version_le (stride : Stride engine event after) :
    engine.store.version ≤ after.store.version := by
  cases stride.tells with
  | silent store publications unheard => exact Nat.le_of_eq store.version.symm
  | posts toasts store publications unheard =>
      rw [store]
      exact Nat.le_succ _
  | served first store publications done unheard => exact Nat.le_of_eq (by rw [store])
  | delivers first listener pending rest store before next publications current heard =>
      exact Nat.le_of_eq (by rw [store])

namespace Run

variable {start finish : Engine} {below : List Frame}

theorem Within.refusing {call : Run start finish}
    (within : call.Within (before.refused operation).frames)
    (refusing : before.Refusing operation start) :
    call.All (fun engine _ => engine.isCallersTurn = false) ∧
      before.Refusing operation finish := by
  induction call with
  | start => exact ⟨trivial, refusing⟩
  | next call event stride ih =>
      obtain ⟨silent, still⟩ := ih within.1
      exact ⟨⟨silent, still.turn⟩, stride.refusing still within.2⟩

/-- The snapshots of a run that are made by operations which are asked for in it, at once or in the
dismissals of a resumption. -/
def nested {finish : Engine} : Run start finish → Nat
  | .start => 0
  | @Run.next _ engine after run event _ =>
      run.nested + if event.isRequest || engine.dismisses then
        after.store.version - engine.store.version else 0

theorem Within.version {call : Run start finish} (within : call.Within below) :
    finish.store.version = start.store.version + call.nested := by
  induction call with
  | start => rfl
  | @next engine after call event stride ih =>
      have before := ih within.1
      rw [nested]
      split
      next asked =>
          have grows := stride.version_le
          omega
      next own =>
          simp only [Bool.or_eq_true, not_or, Bool.not_eq_true] at own
          have same := stride.version_same (busy_of_longer within.2) own.1 own.2
          omega

theorem Quiet.dues {call : Run start finish} (quiet : call.Quiet below) :
    finish.frames.countP Frame.isDue ≤ start.frames.countP Frame.isDue := by
  induction call with
  | start => exact Nat.le_refl _
  | next call event stride ih =>
      have move := stride.move (Event.isManaged_of_own quiet.2.1)
      exact Nat.le_trans (move.restacks.dues quiet.2.1) (ih quiet.1)

theorem Quiet.nested_zero {call : Run start finish} (quiet : call.Quiet below)
    {pushed : List Frame} (frames : start.frames = pushed ++ below)
    (undue : ∀ frame ∈ pushed, frame.isDue = false) : call.nested = 0 := by
  have free : pushed.countP Frame.isDue = 0 := by simpa [List.countP_eq_zero] using undue
  induction call with
  | start => rfl
  | @next engine after call event stride ih =>
      obtain ⟨more, grown⟩ := Within.above (Quiet.within quiet.1) frames
      have few := Quiet.dues quiet.1
      rw [frames, grown, List.countP_append, List.countP_append, free] at few
      cases more with
      | nil =>
          have longer := quiet.2.2
          rw [grown] at longer
          exact absurd longer (Nat.lt_irrefl _)
      | cons first more =>
          have idle : first.isDue = false := by
            by_contra due
            rw [List.countP_cons, if_pos (by simpa using due)] at few
            omega
          rw [nested, ih quiet.1, quiet.2.1, dismisses, grown]
          simp [idle]

/-- What is promised of an operation that finds nothing to do: it comes to its refusal, and until
that is taken the caller does not have the turn, and everything is as it was. -/
structure Traceless (before after : Engine) (operation : Operation) : Prop where
  answered : ∃ final, ∃ call : Run after final,
    call.Returns (.returned operation.refusal :: before.frames)
  silent : ∀ last, ∀ call : Run after last,
    call.Within (.returned operation.refusal :: before.frames) →
      call.All (fun engine _ => engine.isCallersTurn = false) ∧ last.isCallersTurn = false
  untouched : ∀ last, ∀ call : Run after last,
    call.Within (.returned operation.refusal :: before.frames) →
      { last with frames := [] } =
        { before with promises := before.unsettled operation, frames := [] }

/-- What is promised of an operation that finds something to do: it comes to its success, and makes
one snapshot besides those that are asked for meanwhile. -/
structure Effective (before after : Engine) (operation : Operation) : Prop where
  succeeded : before.success operation ≠ operation.refusal
  answered : ∃ final, ∃ call : Run after final,
    call.Returns (.returned (before.success operation) :: before.frames)
  swapped : ∀ last, ∀ call : Run after last,
    call.Within (.returned (before.success operation) :: before.frames) →
      last.store.version = before.store.version + 1 + call.nested
  sole : ∀ last, ∀ call : Run after last,
    call.Quiet (.returned (before.success operation) :: before.frames) → call.nested = 0

theorem traceless_of_futile (futile : before.Futile operation)
    (stride : Stride before (.request operation) after) : Traceless before after operation := by
  cases stride with
  | request operation turn =>
      have start : before.Refusing operation (before.request operation) := request_futile futile
      constructor
      · have quiet : Quiet (before.refused operation).frames
            (.start : Run (before.request operation) _) := trivial
        rcases start with same | same
        · exact @Quiet.ends _ _ _ _ [] quiet (congrArg Engine.frames same)
        · exact @Quiet.ends _ _ _ _ [_] quiet (congrArg Engine.frames same)
      · intro last call within
        obtain ⟨silent, still⟩ := within.refusing start
        exact ⟨silent, still.turn⟩
      · intro last call within
        exact (within.refusing start).2.untouched

theorem effective_of_reports (reports : operation.reports = true)
    (effective : ¬ before.Futile operation) (stride : Stride before (.request operation) after) :
    Effective before after operation := by
  cases stride with
  | request operation turn =>
      have begins := request_begins reports effective
      obtain ⟨pushed, frames, undue⟩ := begins.frames
      constructor
      · exact begins.succeeded
      · have quiet : Quiet (.returned (before.success operation) :: before.frames)
            (.start : Run (before.request operation) _) := trivial
        exact quiet.ends frames
      · intro last call within
        rw [within.version, begins.version]
      · intro last call quiet
        exact quiet.nested_zero frames undue

/-- The end of an exit window whose record is gone takes its removal off the agenda, and nothing
else. -/
theorem stale_removal {place edition : Nat} {id : ToastId} {agenda : Agenda Deed}
    (taken : (before.agenda.bringForward place).next? = some (agenda, some (.remove id edition)))
    (gone : ∀ toast ∈ before.store.toasts, toast.id = id → toast.edition ≠ edition)
    (stride : Stride before (.poll place) after) : after = { before with agenda } := by
  cases stride with
  | poll place after idle polled =>
      have none : before.store.removeEdition? id edition = none := by
        simp only [Store.removeEdition?, Store.removeWhere?]
        refine if_neg fun some => ?_
        obtain ⟨toast, member, doomed⟩ := List.any_eq_true.mp some
        simp only [Bool.and_eq_true, decide_eq_true_eq, beq_iff_eq] at doomed
        exact gone toast member doomed.1 doomed.2
      simp only [pollAt?, poll?, taken, act, none, Option.some.injEq] at polled
      exact polled.symm

/-- Operations that find nothing to do leave no trace. In every engine, whatever is under way in it:
a revision, a dismissal, a first paint, a settlement or a clearing of a position with nothing to do
is answered with its refusal, and until then neither a listener nor a callback is called and
everything stays as it was, apart from the tracking of settled work; the end of an exit window whose
record is gone takes its own removal off the agenda and does nothing else. Any other revision,
dismissal, first paint or clearing of a position is answered with success, and makes exactly one new
snapshot besides those that listeners and callbacks ask for meanwhile. -/
theorem refusals_traceless (before : Engine) :
    (∀ operation after, before.Futile operation → Stride before (.request operation) after →
      Traceless before after operation) ∧
    (∀ place agenda id edition after,
      (before.agenda.bringForward place).next? = some (agenda, some (.remove id edition)) →
      (∀ toast ∈ before.store.toasts, toast.id = id → toast.edition ≠ edition) →
      Stride before (.poll place) after → after = { before with agenda } ∧
        before.agenda.endings.Perm ((.remove id edition, before.now) :: agenda.endings)) ∧
    (∀ operation after, operation.reports = true → ¬ before.Futile operation →
      Stride before (.request operation) after → Effective before after operation) := by
  refine ⟨fun operation after futile stride => traceless_of_futile futile stride, ?_,
    fun operation after reports effective stride => effective_of_reports reports effective stride⟩
  intro place agenda id edition after taken gone stride
  exact ⟨stale_removal taken gone stride, (Agenda.next?_takesUp _ _ place _ taken).endings⟩

def onShow : Σ finish, Run (fresh {} {} 0) finish :=
  (Run.start.extend? [.request (.subscribe ⟨0⟩), .handBack,
    .request (.present { id := some (.named "x") }), .proceed, .handBack, .proceed, .proceed,
    .handBack, .poll 0]).get rfl

/-- It is dismissed and then cleared, and its exit window is over. -/
def leftBehind : Σ finish, Run onShow.1 finish :=
  (Run.start.extend? [.request (.dismiss (.named "x")), .proceed, .handBack, .proceed, .proceed,
    .proceed, .proceed, .handBack, .poll 0, .request (.clear none), .proceed, .handBack, .proceed,
    .proceed, .handBack, .pass 400]).get rfl

theorem leftBehind_traceless :
    Effective onShow.1 (onShow.1.request (.dismiss (.named "x"))) (.dismiss (.named "x")) ∧
    Traceless leftBehind.1 (leftBehind.1.request (.dismiss (.named "x"))) (.dismiss (.named "x")) ∧
    ∃ agenda after, leftBehind.1.follow? (.poll 0) = some after ∧
      after = { leftBehind.1 with agenda } := by
  have live : ¬ onShow.1.Futile (.dismiss (.named "x")) := fun gone => by
    cases gone _ rfl
  have gone : leftBehind.1.Futile (.dismiss (.named "x")) := fun toast found => by cases found
  have followed : leftBehind.1.follow? (.poll 0) = some _ := rfl
  have taken : (leftBehind.1.agenda.bringForward 0).next? =
      some (_, some (.remove (.named "x") 1)) := rfl
  have stale := (refusals_traceless leftBehind.1).2.1 0 _ _ _ _ taken (by decide)
    (follow?_stride followed)
  exact ⟨(refusals_traceless onShow.1).2.2 _ _ rfl live (.request _ rfl),
    (refusals_traceless leftBehind.1).1 _ _ gone (.request _ rfl), _, _, followed, stale.1⟩

end Run

end Engine

end Toasts

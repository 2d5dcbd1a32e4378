import Toasts.Proofs.Creations

/-!
Settlements. A tracked piece of work keeps the identity of its toast, and settling it revises whatever
live record then stands under that identity. Once its own toast has begun its exit or gone, that can
only be a toast that was created later; if there is none, settling changes nothing.
-/

namespace Toasts

def Operation.isTracking : Operation → Bool
  | .promise _ => true
  | .settle _ _ => true
  | _ => false

def Event.isTracking : Event → Bool
  | .request operation => operation.isTracking
  | _ => false

namespace Engine

variable {engine after : Engine} {event : Event} {id : ToastId} {options : Options}

theorem revise?_live {toast : Toast} (found : engine.get? id = some toast)
    (live : toast.exiting = false) (options : Options) :
    let revised := toast.revise options engine.settings engine.screen (engine.numbers + 1)
    engine.revise? id options = some ({ engine with numbers := engine.numbers + 1 }.publish
      (engine.store.swap (Store.replaceFirst id revised engine.store.toasts))
      [.arm id revised.lifespan]) := by
  have found' : engine.store.get? id = some toast := found
  simp [revise?, number, found, Toast.isLive, live, Store.update?, found']

theorem revise?_gone (gone : ∀ toast, engine.get? id = some toast → toast.exiting = true)
    (options : Options) : engine.revise? id options = none := by
  simp only [revise?, number]
  split
  next => rfl
  next toast found => simp [Toast.isLive, gone toast found]

theorem get?_revised (made : engine.revise? id options = some after) :
    ∃ toast, engine.get? id = some toast ∧ toast.exiting = false ∧
      after.get? id =
        some (toast.revise options engine.settings engine.screen (engine.numbers + 1)) ∧
      after.store.version = engine.store.version + 1 := by
  rcases engine.gone_or_live id with gone | ⟨toast, found, live⟩
  · rw [revise?_gone gone] at made
    cases made
  · refine ⟨toast, found, live, ?_⟩
    obtain rfl := Store.id_of_get? found
    rw [revise?_live found live] at made
    have later := Option.some.inj made
    constructor
    · have toasts : after.store.toasts = Store.replaceFirst toast.id
          (toast.revise options engine.settings engine.screen (engine.numbers + 1))
          engine.store.toasts := by rw [← later]; rfl
      have same : (toast.revise options engine.settings engine.screen
          (engine.numbers + 1)).id = toast.id := rfl
      exact (get?_replaced found same toasts toast.id).trans (if_pos rfl)
    · rw [← later]
      rfl

theorem present_shown (engine : Engine) (options : Options) :
    ∃ toast, (engine.present options).1.get? (engine.present options).2 = some toast ∧
      toast.exiting = false := by
  have appended : ∃ toast, (engine.append options).1.get? (engine.append options).2 = some toast ∧
      toast.exiting = false := by
    have toasts : (engine.append options).1.store.toasts = _ := rfl
    exact ⟨_, (get?_put toasts _).trans (if_pos rfl), rfl⟩
  simp only [present]
  split
  next id _ =>
      split
      next revised made =>
          obtain ⟨_, _, _, shown, _⟩ := get?_revised made
          exact ⟨_, shown, rfl⟩
      next => exact appended
  next => exact appended

inductive Tracks (engine after : Engine) : Prop where
  | same (promises : after.promises = engine.promises)
  | begins (tracked : Tracked)
      (new : engine.numbers < tracked.number ∧ tracked.number ≤ after.numbers)
      (promises : after.promises = tracked :: engine.promises)
  | ends (number : Nat)
      (promises : after.promises = engine.promises.filter (·.number ≠ number))

theorem revise?_promises (made : engine.revise? id options = some after) :
    after.promises = engine.promises := by
  simp only [revise?, number] at made
  split at made
  next => cases made
  next =>
      split at made
      next =>
          obtain ⟨store, _, rfl⟩ := Option.map_eq_some_iff.mp made
          rfl
      next => cases made

theorem present_promises (engine : Engine) (options : Options) :
    (engine.present options).1.promises = engine.promises := by
  simp only [present]
  split
  · split
    next made => exact revise?_promises made
    next => rfl
  · rfl

theorem dismiss?_promises {cause : Cause} (made : engine.dismiss? id cause = some after) :
    after.promises = engine.promises := by
  simp only [dismiss?] at made
  split at made
  next => cases made
  next =>
      split at made
      next =>
          obtain ⟨store, _, rfl⟩ := Option.map_eq_some_iff.mp made
          rfl
      next => cases made

theorem track_tracked (engine : Engine) (options : PromiseOptions) :
    ∃ id toast, (engine.track options).1.promises =
        ⟨engine.numbers + 1, id, options⟩ :: engine.promises ∧
      (engine.track options).1.get? id = some toast ∧ toast.exiting = false ∧
      engine.numbers + 1 ≤ (engine.track options).1.numbers := by
  let loading := { options.loading with
    id := options.loading.id <|> engine.pending? options.loading.title }
  have promises := present_promises { engine with numbers := engine.numbers + 1 } loading.atWork
  have numbers := (present_shows { engine with numbers := engine.numbers + 1 } loading.atWork).numbers
  obtain ⟨toast, shown, live⟩ :=
    present_shown { engine with numbers := engine.numbers + 1 } loading.atWork
  exact ⟨_, toast, congrArg (List.cons _) promises, shown, live, numbers⟩

theorem perform_promises (engine : Engine) (operation : Operation)
    (managed : operation.isWrite = false) (untracking : operation.isTracking = false) :
    (engine.perform operation).1.promises = engine.promises := by
  cases operation with
  | present options => exact present_promises engine options
  | update id options =>
      cases made : engine.revise? id options with
      | none => simp [perform, orRefuse, made]
      | some after => simpa [perform, orRefuse, made] using revise?_promises made
  | dismiss id =>
      cases made : engine.dismiss? id .user with
      | none => simp [perform, orRefuse, made]
      | some after => simpa [perform, orRefuse, made] using dismiss?_promises made
  | clear position =>
      simp only [perform]
      split <;> rfl
  | markVisible id =>
      cases made : engine.store.update? id Toast.painted? with
      | none => simp [perform, orRefuse, made]
      | some store => simp [perform, orRefuse, made, publish, push]
  | click id =>
      simp only [perform]
      split <;> rfl
  | write change => simp [Operation.isWrite] at managed
  | promise options => cases untracking
  | settle number outcome => cases untracking
  | _ => rfl

theorem perform_tracks (engine : Engine) (operation : Operation)
    (managed : operation.isWrite = false) : Tracks engine (engine.perform operation).1 := by
  cases tracking : operation.isTracking with
  | false => exact .same (perform_promises engine operation managed tracking)
  | true =>
      cases operation with
      | promise options =>
          obtain ⟨id, toast, promises, _, _, numbers⟩ := track_tracked engine options
          exact .begins ⟨engine.numbers + 1, id, options⟩ ⟨Nat.lt_succ_self _, numbers⟩ promises
      | settle number outcome =>
          simp only [perform, settle]
          split
          next => exact .same rfl
          next tracked _ =>
              apply Tracks.ends number
              cases made : revise? { engine with
                  promises := engine.promises.filter (·.number ≠ number) } tracked.toast
                  (tracked.options.settled outcome) with
              | none => rfl
              | some after => exact revise?_promises made
      | _ => cases tracking

theorem act_promises (engine : Engine) (deed : Deed) :
    (engine.act deed).promises = engine.promises := by
  cases deed with
  | expire id generation =>
      simp only [act]
      split
      next countdowns countdown expired =>
          cases made : dismiss? { engine with countdowns } id .countdown with
          | none => rfl
          | some after =>
              have kept := dismiss?_promises made
              exact kept
      next => rfl
  | remove id edition =>
      simp only [act]
      split <;> rfl
  | errand ticket => rfl

theorem work_promises (engine : Engine) (frame : Frame) :
    (engine.work frame).promises = engine.promises := by
  cases frame with
  | publish version snapshot pending =>
      cases pending with
      | nil => rfl
      | cons listener pending =>
          simp only [work]
          split <;> rfl
  | arm id lifespan =>
      obtain ⟨countdowns, agenda, shape⟩ := arm_shape engine id lifespan
      simp [work, shape]
  | disarm ids =>
      obtain ⟨countdowns, shape⟩ := disarm_shape engine ids
      simp [work, shape]
  | due ids =>
      cases ids with
      | nil => rfl
      | cons id ids =>
          simp only [work]
          cases made : dismiss? (engine.push [.due ids]) id .countdown with
          | none => rfl
          | some after =>
              have kept := dismiss?_promises made
              exact kept
  | _ => rfl

theorem Stride.promises (stride : Stride engine event after) (managed : event.isManaged = true)
    (untracking : event.isTracking = false) : after.promises = engine.promises := by
  cases stride with
  | request operation turn =>
      exact perform_promises { engine with frames := [] } operation
        (by simpa [Event.isManaged] using managed) untracking
  | proceed frame rest top work =>
      simp only [step]
      split
      next => rfl
      next => rfl
      next => rfl
      next => exact work_promises _ _
  | handBack frame rest top idle =>
      simp only [resumeTurn]
      split <;> rfl
  | poll place after idle taken =>
      simp only [pollAt?, poll?] at taken
      split at taken
      next => cases taken
      next => cases taken; rfl
      next =>
          obtain rfl := Option.some.inj taken
          exact act_promises _ _
  | pass moment idle later => rfl

theorem Stride.tracks (stride : Stride engine event after) (managed : event.isManaged = true) :
    Tracks engine after := by
  cases tracking : event.isTracking with
  | false => exact .same (stride.promises managed tracking)
  | true =>
      cases stride with
      | request operation turn =>
          have tracks := perform_tracks { engine with frames := [] } operation
            (by simpa [Event.isManaged] using managed)
          cases tracks with
          | same promises => exact .same promises
          | begins tracked new promises => exact .begins tracked new promises
          | ends number promises => exact .ends number promises
      | _ => cases tracking

theorem Stride.tracked {work : PromiseOptions}
    (stride : Stride engine (.request (.promise work)) after) :
    ∃ tracked toast, after.promises = tracked :: engine.promises ∧ tracked.options = work ∧
      after.get? tracked.toast = some toast ∧ toast.exiting = false := by
  cases stride with
  | request operation turn =>
      obtain ⟨id, toast, promises, shown, live, _⟩ := track_tracked { engine with frames := [] } work
      exact ⟨_, toast, promises, rfl, shown, live⟩

def Enlisted (engine : Engine) : Prop :=
  (engine.promises.map (·.number)).Nodup ∧
    ∀ tracked ∈ engine.promises, tracked.number ≤ engine.numbers

theorem Tracks.enlisted (tracks : Tracks engine after) (numbers : engine.numbers ≤ after.numbers)
    (enlisted : Enlisted engine) : Enlisted after := by
  obtain ⟨distinct, given⟩ := enlisted
  cases tracks with
  | same promises =>
      rw [Enlisted, promises]
      exact ⟨distinct, fun tracked member => Nat.le_trans (given tracked member) numbers⟩
  | begins tracked new promises =>
      rw [Enlisted, promises]
      constructor
      · rw [List.map_cons, List.nodup_cons]
        refine ⟨fun twin => ?_, distinct⟩
        obtain ⟨old, member, same⟩ := List.mem_map.mp twin
        have bound := given old member
        omega
      · intro other member
        rcases List.mem_cons.mp member with rfl | old
        · exact new.2
        · exact Nat.le_trans (given other old) numbers
  | ends number promises =>
      rw [Enlisted, promises]
      constructor
      · exact distinct.sublist (List.filter_sublist.map _)
      · intro tracked member
        exact Nat.le_trans (given tracked (List.mem_filter.mp member).1) numbers

theorem Stride.enlisted (stride : Stride engine event after) (managed : event.isManaged = true)
    (orderly : Orderly engine) (enlisted : Enlisted engine) : Enlisted after :=
  (stride.tracks managed).enlisted ((stride.move managed).numbers orderly) enlisted

theorem Enlisted.find? (enlisted : Enlisted engine) {tracked : Tracked}
    (member : tracked ∈ engine.promises) :
    engine.promises.find? (·.number = tracked.number) = some tracked := by
  rw [← List.head?_filter, filter_of_distinct (fun tracked => tracked.number) enlisted.1 member]
  rfl

def untracked (engine : Engine) (number : Nat) : Engine :=
  { engine with promises := engine.promises.filter (·.number ≠ number), frames := [] }

theorem request_settle {tracked : Tracked} (enlisted : Enlisted engine)
    (member : tracked ∈ engine.promises) (outcome : Outcome) :
    let settled := ((engine.untracked tracked.number).revise? tracked.toast
      (tracked.options.settled outcome)).getD (engine.untracked tracked.number)
    engine.request (.settle tracked.number outcome) =
      { settled with frames := settled.frames ++ .returned (.outcome outcome) :: engine.frames } := by
  simp only [request, perform, settle, enlisted.find? member, untracked]

theorem settle_gone {tracked : Tracked} (enlisted : Enlisted engine)
    (member : tracked ∈ engine.promises)
    (gone : ∀ toast, engine.get? tracked.toast = some toast → toast.exiting = true)
    (outcome : Outcome) : engine.request (.settle tracked.number outcome) = { engine with
      promises := engine.promises.filter (·.number ≠ tracked.number)
      frames := .returned (.outcome outcome) :: engine.frames } := by
  have gone' : ∀ toast, (engine.untracked tracked.number).get? tracked.toast = some toast →
      toast.exiting = true := gone
  rw [request_settle enlisted member, revise?_gone gone']
  rfl

theorem settle_live {tracked : Tracked} {toast : Toast} (enlisted : Enlisted engine)
    (member : tracked ∈ engine.promises) (found : engine.get? tracked.toast = some toast)
    (live : toast.exiting = false) (outcome : Outcome) :
    (engine.request (.settle tracked.number outcome)).get? tracked.toast =
        some (toast.revise (tracked.options.settled outcome) engine.settings engine.screen
          (engine.numbers + 1)) ∧
      (engine.request (.settle tracked.number outcome)).store.version =
        engine.store.version + 1 := by
  have found' : (engine.untracked tracked.number).get? tracked.toast = some toast := found
  have made := revise?_live found' live (tracked.options.settled outcome)
  obtain ⟨other, same, _, shown, version⟩ := get?_revised made
  obtain rfl := Option.some.inj (found'.symm.trans same)
  rw [request_settle enlisted member, made]
  exact ⟨shown, version⟩

/-- A piece of work may be settled whose toast was created under this number. -/
structure Follows (id : ToastId) (birth : Nat) (engine : Engine) : Prop where
  orderly : Orderly engine
  enlisted : Enlisted engine
  noOlder : NoOlder id birth engine

theorem Stride.follows {birth : Nat} (stride : Stride engine event after)
    (managed : event.isManaged = true) (follows : Follows id birth engine) :
    Follows id birth after where
  orderly := (stride.move managed).orderly follows.orderly
  enlisted := stride.enlisted managed follows.orderly follows.enlisted
  noOlder := (stride.move managed).noOlder follows.orderly follows.noOlder

namespace Run

variable {settings : Settings} {defaults : Defaults} {now : Nat} {start finish : Engine}

theorem enlisted (run : Run (fresh settings defaults now) finish) (managed : run.Managed) :
    Enlisted finish := by
  induction run with
  | start => exact ⟨List.nodup_nil, by simp [fresh]⟩
  | next run event stride ih => exact stride.enlisted managed.2 (run.orderly managed.1) (ih managed.1)

theorem follows {birth : Nat} (run : Run start finish) (managed : run.Managed)
    (first : Follows id birth start) : Follows id birth finish := by
  induction run with
  | start => exact first
  | next run event stride ih => exact stride.follows managed.2 (ih managed.1)

/-- A settlement touches no toast but its own, unless a later toast has taken over the identity. A
piece of work is tracked with a live toast. Say that this toast is not shown any more at some moment,
and that later the work is settled: the outcome is handed back as it is; nothing changes, apart from
the tracking, exactly when no live record stands under the identity; and a live record there is of a
toast that was created later, and is revised in place of the toast that is gone. -/
theorem settlement_exact {before after : Engine} {work : PromiseOptions}
    (run : Run (fresh settings defaults now) before) (managed : run.Managed)
    (stride : Stride before (.request (.promise work)) after) :
    ∃ tracked toast, after.promises = tracked :: before.promises ∧ tracked.options = work ∧
      after.get? tracked.toast = some toast ∧ toast.exiting = false ∧
      ∀ {mid} (meanwhile : Run after mid), meanwhile.Managed → ¬ mid.Shown toast.birth →
        ∀ {finish} (later : Run mid finish), later.Managed → tracked ∈ finish.promises →
          ∀ outcome,
            (∃ pushed, (finish.request (.settle tracked.number outcome)).frames =
              pushed ++ .returned (.outcome outcome) :: finish.frames) ∧
            (finish.request (.settle tracked.number outcome) = { finish with
                promises := finish.promises.filter (·.number ≠ tracked.number)
                frames := .returned (.outcome outcome) :: finish.frames } ↔
              ∀ other, finish.get? tracked.toast = some other → other.exiting = true) ∧
            ∀ other, finish.get? tracked.toast = some other → other.exiting = false →
              toast.birth < other.birth ∧
              (finish.request (.settle tracked.number outcome)).get? tracked.toast =
                some (other.revise (work.settled outcome) finish.settings finish.screen
                  (finish.numbers + 1)) := by
  have orderly := run.orderly managed
  have enlisted := stride.enlisted rfl orderly (run.enlisted managed)
  have numbered : Run.Managed (run.next _ stride) := ⟨managed, rfl⟩
  obtain ⟨tracked, toast, promises, options, shown, live⟩ := stride.tracked
  refine ⟨tracked, toast, promises, options, shown, live, ?_⟩
  intro mid meanwhile kept gone finish later keeps member outcome
  have first : Follows tracked.toast toast.birth after := by
    refine ⟨(stride.move rfl).orderly orderly, enlisted, Run.births (run.next _ stride) numbered shown, ?_⟩
    intro other found
    obtain rfl := Option.some.inj (shown.symm.trans found)
    exact Nat.le_refl _
  have midway := meanwhile.follows kept first
  have follows := later.follows keeps midway
  have gone' := later.unshown keeps midway.orderly midway.noOlder.1 gone
  refine ⟨⟨_, rfl⟩, ⟨?_, ?_⟩, ?_⟩
  -- A live record would be revised, and the revision published.
  · intro same other found
    cases live : other.exiting with
    | true => rfl
    | false =>
        have version := (settle_live follows.enlisted member found live outcome).2
        rw [same] at version
        exact absurd version (Nat.ne_of_lt (Nat.lt_succ_self _))
  · exact fun dead => settle_gone follows.enlisted member dead outcome
  · intro other found live
    constructor
    · apply Nat.lt_of_le_of_ne (follows.noOlder.2 other found)
      intro same
      exact gone' ⟨other, Store.mem_of_get? found, same.symm, live⟩
    · rw [← options]
      exact (settle_live follows.enlisted member found live outcome).1

def job : PromiseOptions where
  loading := { id := some (.named "job"), title := some "Working" }
  success := .fixed { title := some "Done" }
  error := .fixed { title := some "Failed" }

def working : Engine := (fresh {} {} 0).request (.promise job)

def cleared : Σ finish, Run working finish :=
  (Run.start.extend? [.proceed, .proceed, .handBack, .request (.clear none), .proceed, .proceed,
    .handBack]).get rfl

def another : Σ finish, Run cleared.1 finish :=
  (Run.start.extend? [.request (.present { id := some (.named "job"), title := some "Other" }),
    .proceed, .proceed, .handBack]).get rfl

theorem cleared_settlement : cleared.2.Managed ∧ ∃ tracked ∈ cleared.1.promises,
    cleared.1.request (.settle tracked.number (.fulfilled "v")) = { cleared.1 with
      promises := cleared.1.promises.filter (·.number ≠ tracked.number)
      frames := .returned (.outcome (.fulfilled "v")) :: cleared.1.frames } := by
  have stride : Stride (fresh {} {} 0) (.request (.promise job)) working := .request _ rfl
  obtain ⟨tracked, toast, promises, _, _, _, settles⟩ :=
    settlement_exact (.start : Run (fresh {} {} 0) _) trivial stride
  have gone : ¬ cleared.1.Shown toast.birth := by
    rintro ⟨_, member, _⟩
    cases member
  have kept : cleared.1.promises = working.promises := rfl
  have member : tracked ∈ cleared.1.promises := by
    rw [kept, promises]
    exact List.mem_cons_self
  have settled := settles cleared.2 (by decide) gone .start trivial member (.fulfilled "v")
  refine ⟨by decide, tracked, member, settled.2.1.mpr ?_⟩
  rintro other ⟨⟩

/-- The settlement of the work puts its title on the other toast. -/
theorem late_settlement_overwrites :
    cleared.2.Managed ∧ another.2.Managed ∧
    ∃ toast tracked, working.get? (.named "job") = some toast ∧ ¬ cleared.1.Shown toast.birth ∧
      tracked ∈ another.1.promises ∧ tracked.toast = .named "job" ∧
      (another.1.get? (.named "job")).map (·.title) = some (some "Other") ∧
      ((another.1.request (.settle tracked.number (.fulfilled "v"))).get? (.named "job")).map
        (·.title) = some (some "Done") := by
  refine ⟨by decide, by decide, _, _, rfl, ?_, List.mem_cons_self, rfl, rfl, rfl⟩
  rintro ⟨_, member, _⟩
  cases member

end Run

end Engine

end Toasts

import Toasts.Proofs.Changes

/-!
Showing a toast. Once a toast is asked for, its record is in the list, and if nobody asks for
anything meanwhile the list stays so until the call returns. A live toast that the options name is
refreshed in its place, and keeps what the options leave open. An identity that the default options
give is not looked for, though: a live toast that has it is thrown away for a new one.
-/

namespace Toasts

def Toast.Planned (settings : Settings) (toast : Toast) : Prop :=
  toast.autopilot = Autopilot.plan toast.autopilotRequest toast.lifespan settings

/-- A record goes on as the same toast, at the same stage, and keeps what the options leave open.
Its lifespan may change with its work, and its autopilot with its lifespan. -/
structure Toast.Refreshes (old : Toast) (options : Options) (new : Toast) : Prop where
  id : new.id = old.id
  birth : new.birth = old.birth
  lifecycle : new.lifecycle = old.lifecycle
  live : new.exiting = false
  kind : options.kind = none → new.kind = old.kind
  title : options.title = none → new.title = old.title
  description : options.description = none → new.description = old.description
  position : options.position = none → new.position = old.position
  icon : options.icon = none → new.icon = old.icon
  styles : ∀ slot, options.styles.get slot = none → new.styles.get slot = old.styles.get slot
  action : options.action = none → new.action = old.action
  animation : options.animation = none → new.animation = old.animation
  anchor : options.anchor = none → new.anchor = old.anchor
  onDismiss : options.onDismiss = none → new.onDismiss = old.onDismiss
  onAutoClose : options.onAutoClose = none → new.onAutoClose = old.onAutoClose
  lifespan : options.lifespan = none → old.kind ≠ .loading → new.kind ≠ .loading →
    new.lifespan = old.lifespan
  autopilot : options.autopilot = none → new.lifespan = old.lifespan →
    new.autopilot = old.autopilot

theorem Toast.Planned.refreshes {settings : Settings} {toast : Toast}
    (planned : toast.Planned settings) (options : Options) (screen : Screen) (number : Nat) :
    toast.Refreshes options (toast.revise options settings screen number) where
  id := rfl
  birth := rfl
  lifecycle := rfl
  live := rfl
  kind unset := by simp [revise, unset]
  title unset := by simp [revise, unset]
  description unset := by simp [revise, unset]
  position unset := by simp [revise, unset]
  icon unset := by simp [revise, unset]
  styles slot unset := by simp [revise, Styles.merged, unset]
  action unset := by simp [revise, unset]
  animation unset := by simp [revise, unset]
  anchor unset := by simp [revise, unset]
  onDismiss unset := by simp [revise, unset]
  onAutoClose unset := by simp [revise, unset]
  lifespan unset idle stays := by
    have settled : options.kind.getD toast.kind ≠ .loading := stays
    simp [revise, revisedLifespan, unset, idle, settled]
  autopilot unset same := by
    have request : (toast.revise options settings screen number).autopilotRequest =
        toast.autopilotRequest := by simp [revise, unset]
    calc (toast.revise options settings screen number).autopilot
      _ = Autopilot.plan (toast.revise options settings screen number).autopilotRequest
          (toast.revise options settings screen number).lifespan settings := rfl
      _ = toast.autopilot := by rw [request, same, planned]

def Frame.isCalm : Frame → Bool
  | .publish _ _ _ => true
  | .caller _ => true
  | .arm _ _ => true
  | _ => false

namespace Engine

variable {engine after : Engine} {event : Event} {options : Options} {id : ToastId}

theorem Edits.planned (edits : Edits engine event after) (same : after.settings = engine.settings)
    (planned : ∀ toast ∈ engine.store.toasts, toast.Planned engine.settings) :
    ∀ toast ∈ after.store.toasts, toast.Planned after.settings := by
  rw [same]
  cases edits with
  | keeps toasts version refused =>
      rw [toasts]
      exact planned
  | makes change asked made =>
      refine made.each ?_ ?_ ?_ ?_ planned
      · exact fun options number => rfl
      · exact fun toast options number before live => rfl
      · exact fun toast before => before
      · intro toast painted before seen
        obtain ⟨_, rfl⟩ := Toast.painted?_some seen
        exact before

/-- What is to be done before `below` is the rest of a call that leaves the toasts alone. -/
def Calm (below : List Frame) (engine : Engine) : Prop :=
  ∃ pushed, engine.frames = pushed ++ below ∧ ∀ frame ∈ pushed, frame.isCalm = true

theorem Stride.calmly {below : List Frame} (stride : Stride engine event after)
    (own : event.isRequest = false) (busy : below.length < engine.frames.length)
    (calm : engine.Calm below) :
    after.Calm below ∧ after.store.toasts = engine.store.toasts := by
  obtain ⟨_ | ⟨first, pushed⟩, frames, every⟩ := calm
  · -- With nothing above it the call is done, and is not taken any further.
    simp [frames] at busy
  obtain ⟨head, calm⟩ := List.forall_mem_cons.mp every
  rw [List.cons_append] at frames
  cases stride with
  | request operation turn => cases own
  | proceed frame rest top work =>
      obtain ⟨rfl, rfl⟩ := List.cons.inj (top.symm.trans frames)
      cases frame with
      | publish version snapshot pending =>
          cases pending with
          | nil =>
              refine ⟨⟨pushed, ?_, calm⟩, ?_⟩
              · simp [step, top, Engine.work]
              · simp [step, top, Engine.work]
          | cons listener pending =>
              simp only [step, top, Engine.work]
              split
              · exact ⟨⟨pushed, rfl, calm⟩, rfl⟩
              · refine ⟨⟨_ :: _ :: pushed, rfl, ?_⟩, rfl⟩
                exact List.forall_mem_cons.mpr ⟨rfl, List.forall_mem_cons.mpr ⟨rfl, calm⟩⟩
      | arm id lifespan =>
          obtain ⟨countdowns, agenda, shape⟩ :=
            arm_shape { engine with frames := pushed ++ below } id lifespan
          refine ⟨⟨pushed, ?_, calm⟩, ?_⟩
          · simp [step, top, Engine.work, shape]
          · simp [step, top, Engine.work, shape]
      | caller call => cases work
      | _ => cases head
  | handBack frame rest top idle =>
      obtain ⟨rfl, rfl⟩ := List.cons.inj (top.symm.trans frames)
      cases frame with
      | caller call =>
          refine ⟨⟨pushed, ?_, calm⟩, ?_⟩
          · simp [resumeTurn, top]
          · simp [resumeTurn, top]
      | publish version snapshot pending => cases idle
      | arm id lifespan => cases idle
      | _ => cases head
  | poll place after idle taken => cases idle.symm.trans frames
  | pass moment idle later => cases idle.symm.trans frames

inductive Presented (engine : Engine) (options : Options) (id : ToastId) (toasts : List Toast) :
    Prop where
  | refreshed (toast : Toast) (named : options.id = some id) (found : engine.get? id = some toast)
      (live : toast.exiting = false)
      (made : toasts = Store.replaceFirst id
        (toast.revise options engine.settings engine.screen (engine.numbers + 1))
        engine.store.toasts)
  | created (toast : Toast) (dead : ∀ other, options.id = some other → engine.hasLive other = false)
      (made : toast =
        Toast.create options engine.defaults engine.settings engine.screen (engine.numbers + 1))
      (answer : toast.id = id)
      (appended : toasts = engine.store.toasts.filter (·.id ≠ id) ++ [toast])

theorem Presented.framed {frames : List Frame} {toasts : List Toast}
    (presented : Presented { engine with frames } options id toasts) :
    Presented engine options id toasts := by
  cases presented with
  | refreshed toast named found live made => exact .refreshed toast named found live made
  | created toast dead made answer appended => exact .created toast dead made answer appended

theorem present_presented (engine : Engine) (options : Options) :
    ∃ version snapshot pending lifespan,
      (engine.present options).1.frames =
        [.publish version snapshot pending, .arm (engine.present options).2 lifespan] ++
          engine.frames ∧
      Presented engine options (engine.present options).2
        (engine.present options).1.store.toasts := by
  -- Which way it goes is settled by the options alone, before the defaults are laid under them.
  cases asked : options.id.filter engine.hasLive with
  | some id =>
      obtain ⟨named, live⟩ := Option.filter_eq_some_iff.mp asked
      obtain ⟨toast, found, alive⟩ := hasLive_iff.mp live
      obtain ⟨revised, made, shape⟩ := present_revised engine named live
      rw [revise?_live found alive] at made
      obtain rfl := Option.some.inj made
      rw [shape]
      exact ⟨_, _, _, _, rfl, .refreshed toast named found alive rfl⟩
  | none =>
      have dead : ∀ other, options.id = some other → engine.hasLive other = false := by
        intro other named
        simpa [named] using asked
      rw [present_appended engine dead]
      exact ⟨_, _, _, _, rfl, .created _ dead rfl rfl rfl⟩

/-- A showing leaves an announcement and a countdown before its answer. -/
theorem request_present (engine : Engine) (options : Options) :
    ∃ id version snapshot pending lifespan,
      (engine.request (.present options)).frames =
        [.publish version snapshot pending, .arm id lifespan] ++
          .returned (.toast id) :: engine.frames ∧
      Presented engine options id (engine.request (.present options)).store.toasts := by
  obtain ⟨version, snapshot, pending, lifespan, frames, presented⟩ :=
    present_presented { engine with frames := [] } options
  refine ⟨_, version, snapshot, pending, lifespan, ?_, presented.framed⟩
  simp only [request, perform, frames, List.append_nil]

theorem request_promise (engine : Engine) (work : PromiseOptions) :
    ∃ id version snapshot pending lifespan,
      (engine.request (.promise work)).frames =
        [.publish version snapshot pending, .arm id lifespan] ++
          .returned (.promise (engine.numbers + 1)) :: engine.frames ∧
      (engine.request (.promise work)).promises =
        ⟨engine.numbers + 1, id, work⟩ :: engine.promises ∧
      Presented { engine with numbers := engine.numbers + 1 } (engine.tracking work) id
        (engine.request (.promise work)).store.toasts := by
  let numbered := { engine with frames := [], numbers := engine.numbers + 1 }
  obtain ⟨version, snapshot, pending, lifespan, frames, presented⟩ :=
    present_presented numbered (engine.tracking work)
  have answered := congrArg (· ++ .returned (.promise (engine.numbers + 1)) :: engine.frames) frames
  have promises := present_promises numbered (engine.tracking work)
  exact ⟨_, version, snapshot, pending, lifespan, answered, congrArg (List.cons _) promises,
    presented.framed⟩

/-- What is promised of a showing that answers with this identity: a live toast that has it is
refreshed in its place; else a new toast comes last, and only one on its way out goes for it. -/
structure Presents (engine after : Engine) (options : Options) (id : ToastId) : Prop where
  refreshed : ∀ toast, engine.get? id = some toast → toast.exiting = false →
    ∃ above below revised number, engine.store.toasts = above ++ toast :: below ∧
      after.store.toasts = above ++ revised :: below ∧
      revised = toast.revise options engine.settings engine.screen number ∧
      engine.numbers < number ∧ toast.Refreshes options revised
  appended : (∀ toast, engine.get? id = some toast → toast.exiting = true) →
    ∃ toast number,
      after.store.toasts = engine.store.toasts.filter (·.id ≠ id) ++ [toast] ∧
      toast = Toast.create options engine.defaults engine.settings engine.screen number ∧
      engine.numbers < number ∧ toast.id = id

/-- The options themselves name every live toast that has this identity. -/
def Names (engine : Engine) (options : Options) (id : ToastId) : Prop :=
  ∀ toast, engine.get? id = some toast → toast.exiting = false → options.id = some id

theorem Presented.presents (presented : Presented engine options id after.store.toasts)
    (planned : ∀ toast ∈ engine.store.toasts, toast.Planned engine.settings)
    (names : engine.Names options id) : Presents engine after options id := by
  cases presented with
  | refreshed toast named found live made =>
      obtain ⟨above, below, split, _, _, replaced⟩ := Store.find?_split found
      constructor
      · intro other found' _
        obtain rfl := Option.some.inj (found.symm.trans found')
        exact ⟨above, below, _, _, split, made.trans (replaced _), rfl, Nat.lt_succ_self _,
          (planned toast (Store.mem_of_get? found)).refreshes _ _ _⟩
      · intro gone
        rw [gone toast found] at live
        cases live
  | created toast dead made answer appended =>
      constructor
      · intro other found live
        have alive := hasLive_iff.mpr ⟨other, found, live⟩
        rw [dead id (names other found live)] at alive
        cases alive
      · intro _
        exact ⟨toast, _, appended, made, Nat.lt_succ_self _, answer⟩

theorem Presented.names (presented : Presented engine options id after.store.toasts)
    (births : ∀ toast, engine.get? id = some toast → toast.birth ≤ engine.numbers)
    (presents : Presents engine after options id) : engine.Names options id := by
  intro toast found live
  cases presented with
  | refreshed other named found' live' made => exact named
  | created new dead made answer appended =>
      obtain ⟨above, below, revised, number, _, toasts, _, _, refreshes⟩ :=
        presents.refreshed toast found live
      have member : revised ∈ engine.store.toasts.filter (·.id ≠ id) ++ [new] := by
        rw [← appended, toasts]
        simp
      have same : revised.id = id := refreshes.id.trans (Store.id_of_get? found)
      rcases List.mem_append.mp member with kept | last
      · exact absurd same (of_decide_eq_true (List.mem_filter.mp kept).2)
      · have birth : revised.birth = engine.numbers + 1 := by
          rw [List.mem_singleton.mp last, made]
          rfl
        have bound := births toast found
        rw [refreshes.birth] at birth
        omega

theorem Presented.replaces (presented : Presented engine options id after.store.toasts)
    (unnamed : options.id ≠ some id) :
    ∃ new, after.get? id = some new ∧ new.birth = engine.numbers + 1 ∧
      new = Toast.create options engine.defaults engine.settings engine.screen new.birth := by
  cases presented with
  | refreshed toast named found live made => exact absurd named unnamed
  | created toast dead made answer appended =>
      subst answer
      refine ⟨toast, (get?_put appended _).trans (if_pos rfl), ?_, ?_⟩
      · rw [made]
        rfl
      · rw [made]
        rfl

namespace Run

variable {settings : Settings} {defaults : Defaults} {now : Nat} {start finish : Engine}

theorem planned (run : Run (fresh settings defaults now) finish) (managed : run.Managed) :
    ∀ toast ∈ finish.store.toasts, toast.Planned finish.settings := by
  induction run with
  | start => simp [fresh]
  | next run event stride ih =>
      exact (stride.edits managed.2).planned (stride.move managed.2).settings (ih managed.1)

def Quiet (below : List Frame) (call : Run start finish) : Prop :=
  call.All fun engine event => event.isRequest = false ∧ below.length < engine.frames.length

instance (below : List Frame) (call : Run start finish) : Decidable (call.Quiet below) :=
  inferInstanceAs (Decidable (call.All _))

/-- Nobody asks for anything before a call is done with all but what was left to do before. -/
def Returns (below : List Frame) (call : Run start finish) : Prop :=
  call.Quiet below ∧ finish.frames = below

theorem Quiet.calm {below : List Frame} {call : Run start finish} (quiet : call.Quiet below)
    (calm : start.Calm below) :
    finish.Calm below ∧ finish.store.toasts = start.store.toasts := by
  induction call with
  | start => exact ⟨calm, rfl⟩
  | next call event stride ih =>
      obtain ⟨before, same⟩ := ih quiet.1
      obtain ⟨own, busy⟩ := quiet.2
      obtain ⟨calm, toasts⟩ := stride.calmly own busy before
      exact ⟨calm, toasts.trans same⟩

theorem Quiet.returns {below : List Frame} {engine : Engine} {call : Run start engine}
    {version : Nat} {snapshot : List Toast} {pending : List Listener} {id : ToastId}
    {lifespan : Lifespan} (quiet : call.Quiet below)
    (frames : engine.frames = [.publish version snapshot pending, .arm id lifespan] ++ below) :
    ∃ finish, ∃ call : Run start finish, call.Returns below := by
  have arms {engine : Engine} {call : Run start engine} (quiet : call.Quiet below)
      (frames : engine.frames = .arm id lifespan :: below) :
      ∃ finish, ∃ call : Run start finish, call.Returns below := by
    obtain ⟨countdowns, agenda, shape⟩ := arm_shape { engine with frames := below } id lifespan
    refine ⟨_, call.next .proceed (.proceed _ _ frames rfl), ⟨quiet, rfl, ?_⟩, ?_⟩
    · simp [frames]
    · simp [step, frames, Engine.work, shape]
  have longer {engine : Engine} {frame : Frame}
      (frames : engine.frames = [frame, .arm id lifespan] ++ below) :
      below.length < engine.frames.length := by
    simp only [frames, List.length_append, List.length_cons]
    omega
  induction pending generalizing engine with
  | nil =>
      have stride : Stride engine .proceed engine.step := .proceed _ _ frames rfl
      have told : Quiet below (call.next .proceed stride) := ⟨quiet, rfl, longer frames⟩
      exact arms told (by simp [step, frames, Engine.work])
  | cons listener pending ih =>
      have stride : Stride engine .proceed engine.step := .proceed _ _ frames rfl
      have told : Quiet below (call.next .proceed stride) := ⟨quiet, rfl, longer frames⟩
      -- A snapshot that is no longer the latest is told to nobody else.
      by_cases current : engine.store.version = version
      · have top : engine.step.frames = .caller (.deliver listener snapshot) ::
            ([.publish version snapshot pending, .arm id lifespan] ++ below) := by
          simp [step, frames, Engine.work, current, push]
        have back : Stride engine.step .handBack engine.step.resumeTurn := .handBack _ _ top rfl
        have heard : Quiet below ((call.next .proceed stride).next .handBack back) :=
          ⟨told, rfl, by simp only [top, List.length_append, List.length_cons]; omega⟩
        exact ih heard (by simp [resumeTurn, top])
      · exact arms told (by simp [step, frames, Engine.work, current])

/-- A showing spares a live toast exactly when the options themselves name it. In every managed run,
a call to show a toast comes to its answer. When it does, with nobody asking for anything meanwhile,
a live toast with the identity that is answered has been refreshed in its place, or else a new toast
has been appended and only one on its way out has gone for it, exactly when the options name every
live toast with that identity. A live toast that only the default options name has gone, and
under its identity is a new toast instead. -/
theorem showing_exact {before after : Engine} {options : Options}
    (run : Run (fresh settings defaults now) before) (managed : run.Managed)
    (stride : Stride before (.request (.present options)) after) :
    ∃ id pushed, after.frames = pushed ++ .returned (.toast id) :: before.frames ∧
      (∃ finish, ∃ call : Run after finish,
        call.Returns (.returned (.toast id) :: before.frames)) ∧
      ∀ {finish} (call : Run after finish), call.Returns (.returned (.toast id) :: before.frames) →
        (Presents before finish options id ↔ before.Names options id) ∧
        ∀ toast, before.get? id = some toast → toast.exiting = false → options.id ≠ some id →
          ∃ new, finish.get? id = some new ∧ toast.birth < new.birth ∧
            new = Toast.create options before.defaults before.settings before.screen new.birth := by
  have births : ∀ {id} toast, before.get? id = some toast → toast.birth ≤ before.numbers :=
    fun toast found => run.births managed found
  cases stride with
  | request operation turn =>
      obtain ⟨id, version, snapshot, pending, lifespan, frames, presented⟩ :=
        request_present before options
      have calm : (before.request (.present options)).Calm
          (.returned (.toast id) :: before.frames) :=
        ⟨_, frames, by simp [Frame.isCalm]⟩
      have quiet : Quiet (.returned (.toast id) :: before.frames)
          (.start : Run (before.request (.present options)) _) := trivial
      refine ⟨id, _, frames, quiet.returns frames, ?_⟩
      intro finish call returns
      rw [← (returns.1.calm calm).2] at presented
      refine ⟨⟨presented.names births, presented.presents (run.planned managed)⟩, ?_⟩
      intro toast found live unnamed
      obtain ⟨new, present, birth, made⟩ := presented.replaces unnamed
      have bound := births toast found
      exact ⟨new, present, by omega, made⟩

def watched : Σ finish, Run (fresh {} {} 0) finish :=
  (Run.start.extend? [.request (.subscribe ⟨1⟩), .handBack,
    .request (.present { id := some (.named "x"), title := some "one" }), .proceed, .handBack,
    .proceed, .proceed, .handBack, .request (.markVisible (.named "x")), .proceed, .handBack,
    .proceed, .handBack]).get rfl

def again : Options := { id := some (.named "x"), title := some "two" }

def watchedAgain : Σ finish, Run (watched.1.request (.present again)) finish :=
  (Run.start.extend? [.proceed, .handBack, .proceed, .proceed]).get rfl

theorem watched_refreshed : watched.2.Managed ∧
    watchedAgain.2.Returns (.returned (.toast (.named "x")) :: watched.1.frames) ∧
    Presents watched.1 watchedAgain.1 again (.named "x") := by
  have stride : Stride watched.1 (.request (.present again)) _ := .request _ rfl
  obtain ⟨id, pushed, frames, _, law⟩ := showing_exact watched.2 (by decide) stride
  have answer : id = .named "x" := by
    have last := congrArg List.getLast? frames
    rw [show watched.1.frames = [] from rfl, List.getLast?_concat] at last
    cases last
    rfl
  subst answer
  have returns : watchedAgain.2.Returns (.returned (.toast (.named "x")) :: watched.1.frames) :=
    ⟨by decide, rfl⟩
  refine ⟨by decide, returns, (law watchedAgain.2 returns).1.mpr ?_⟩
  intro toast found live
  rfl

def settled : Σ finish, Run (fresh {} {} 0) finish :=
  (Run.start.extend? [.request (.setDefaultOptions { id := some (.named "x") }), .handBack,
    .request (.present { title := some "one" }), .proceed, .proceed, .handBack,
    .request (.markVisible (.named "x")), .proceed, .handBack]).get rfl

def unnamed : Options := { title := some "two" }

def settledAgain : Σ finish, Run (settled.1.request (.present unnamed)) finish :=
  (Run.start.extend? [.proceed, .proceed]).get rfl

/-- The painted toast is live, and is thrown away for a new one. -/
theorem painted_thrown_away : settled.2.Managed ∧
    settledAgain.2.Returns (.returned (.toast (.named "x")) :: settled.1.frames) ∧
    ¬ Presents settled.1 settledAgain.1 unnamed (.named "x") ∧
    ∃ old new, settled.1.get? (.named "x") = some old ∧ old.exiting = false ∧
      old.lifecycle = .visible ∧ settledAgain.1.get? (.named "x") = some new ∧
      new.lifecycle = .entering ∧ old.birth < new.birth := by
  refine ⟨by decide, ⟨by decide, rfl⟩, ?_, _, _, rfl, rfl, rfl, rfl, rfl, by decide⟩
  intro presents
  obtain ⟨above, below, revised, number, _, toasts, _, _, refreshes⟩ :=
    presents.refreshed _ rfl rfl
  have member : revised ∈ settledAgain.1.store.toasts := by
    rw [toasts]
    simp
  obtain rfl := List.mem_singleton.mp member
  cases refreshes.lifecycle

end Run

end Engine

end Toasts

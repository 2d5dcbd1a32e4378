import Toasts.Console.Stage
import Toasts.Proofs.Deliveries
import Toasts.Proofs.Lifecycles
import Toasts.Proofs.Sequels

/-!
Runs of a stage. Whatever may happen to an engine may happen to the engine of a stage: others ask for
something between any two steps of the renderer, listeners and callbacks ask for something in their
calls, ready tasks are taken up in any order and time passes at will. Only the call that hands the
renderer a snapshot, and its own errand, are the renderer's. So the engine of a stage runs like one
that stands alone, and what waits for the renderer are snapshots that its store has had.
-/

namespace Toasts

def Frame.feeds (feed : Nat) : Frame → Bool
  | .caller (.deliver listener _) => listener.id == feed
  | _ => false

theorem Frame.feeds_of_mute {frame : Frame} (mute : frame.tells = false) (feed : Nat) :
    frame.feeds feed = false := by
  cases frame with
  | caller call => cases call <;> first | rfl | cases mute
  | _ => rfl

theorem Toast.entering_of_leave {toast : Toast} (entering : toast.leave.lifecycle = .entering) :
    toast.lifecycle = .entering := by
  cases stage : toast.lifecycle <;>
    simp_all [leave, Lifecycle.advance, Lifecycle.rank]

namespace Engine

variable {engine after : Engine} {event : Event} {feed : Nat}

def Unfed (feed : Nat) (frames : List Frame) : Prop := ∀ frame ∈ frames, frame.feeds feed = false

/-- A listener is handed the present snapshot, on top of the stack, or it is handed nothing. -/
inductive Handing (feed : Nat) (engine : Engine) : Prop where
  | free (unfed : Unfed feed engine.frames)
  | feeding (listener : Listener) (rest : List Frame) (own : listener.id = feed)
      (top : engine.frames = .caller (.deliver listener engine.store.toasts) :: rest)
      (unfed : Unfed feed rest)

theorem Unfed.append {above below : List Frame} (first : Unfed feed above)
    (second : Unfed feed below) : Unfed feed (above ++ below) := by
  intro frame member
  rcases List.mem_append.mp member with upper | lower
  · exact first frame upper
  · exact second frame lower

theorem Unfed.of_mute {frames : List Frame} (mute : ∀ frame ∈ frames, frame.tells = false) :
    Unfed feed frames := fun frame member => Frame.feeds_of_mute (mute frame member) feed

theorem Unfed.cons {frame : Frame} {rest : List Frame} (first : frame.feeds feed = false)
    (unfed : Unfed feed rest) : Unfed feed (frame :: rest) :=
  List.forall_mem_cons.mpr ⟨first, unfed⟩

theorem Unfed.below {frame : Frame} {rest : List Frame} (unfed : Unfed feed engine.frames)
    (top : engine.frames = frame :: rest) : Unfed feed rest := by
  rw [top] at unfed
  exact (List.forall_mem_cons.mp unfed).2

theorem isCallersTurn_of_call {call : Call} {rest : List Frame}
    (top : engine.frames = .caller call :: rest) : engine.isCallersTurn = true := by
  simp [isCallersTurn, top]

theorem Posts.unfed (posts : Posts engine after) (unfed : Unfed feed engine.frames) :
    Unfed feed after.frames := by
  cases posts with
  | silent pushed mute calm store frames =>
      rw [frames]
      exact (Unfed.of_mute mute).append unfed
  | posts toasts rest mute calm store frames =>
      rw [frames]
      exact Unfed.cons rfl ((Unfed.of_mute mute).append unfed)

theorem Move.handing (move : Move engine .proceed after) (informed : Informed engine)
    (unfed : Unfed feed engine.frames) : Handing feed after := by
  -- The frame on top goes, and frames come for it that hand nothing to anybody.
  have plain {frame : Frame} {rest : List Frame} (top : engine.frames = frame :: rest)
      (pushed : List Frame) (mute : ∀ frame ∈ pushed, frame.tells = false)
      (frames : after.frames = pushed ++ rest) : Handing feed after := by
    refine .free ?_
    rw [frames]
    exact (Unfed.of_mute mute).append (unfed.below top)
  cases move with
  | published version snapshot pending rest top served => exact plain top [] (by simp) rfl
  | deliver version snapshot listener pending rest top current =>
      have first : ⟨version, snapshot, listener :: pending⟩ ∈ engine.publications := by
        simp [publications, top, Frame.publication?]
      obtain rfl : snapshot = engine.store.toasts := informed.current _ first current.symm
      have below : Unfed feed (.publish version engine.store.toasts pending :: rest) :=
        Unfed.cons rfl (unfed.below top)
      by_cases own : listener.id = feed
      · exact .feeding listener _ own rfl below
      · exact .free (Unfed.cons (by simp [Frame.feeds, own]) below)
  | arm id lifespan rest top =>
      obtain ⟨countdowns, agenda, shape⟩ := arm_shape { engine with frames := rest } id lifespan
      exact plain top [] (by simp) (by rw [shape]; rfl)
  | leave toast cause rest top =>
      refine plain top (_ ++ [_]) ?_ (List.append_assoc _ [_] rest).symm
      cases cause with
      | user => exact callback_mute none (.dismissed · toast) _ (fun _ => rfl) rfl
      | countdown => exact callback_mute _ _ _ (fun _ => rfl) rfl
  | farewell toast rest top =>
      exact plain top (_ ++ [_]) (callback_mute _ _ _ (fun _ => rfl) rfl)
        (List.append_assoc _ [_] rest).symm
  | exitWindow toast rest top => exact plain top [] (by simp) rfl
  | disarm ids rest top =>
      obtain ⟨countdowns, shape⟩ := disarm_shape { engine with frames := rest } ids
      exact plain top [] (by simp) (by rw [shape]; rfl)
  | dueDone rest top => exact plain top [] (by simp) rfl
  | dueGone id ids rest top gone => exact plain top [.due ids] (by simp [Frame.tells]) rfl
  | due toast ids rest after top leaves =>
      refine .free ?_
      rw [leaves.publishes.frames]
      exact Unfed.cons rfl (Unfed.cons rfl (Unfed.cons rfl (unfed.below top)))

theorem Stride.handing (stride : Stride engine event after) (informed : Informed engine)
    (unfed : Unfed feed engine.frames) : Handing feed after := by
  cases stride with
  | request operation turn =>
      obtain ⟨answer, posts⟩ := request_posts engine operation
      exact .free (posts.unfed (Unfed.cons rfl unfed))
  | proceed frame rest top work =>
      exact (proceed_move engine frame rest top work).handing informed unfed
  | handBack frame rest top idle =>
      rw [resumeTurn_pops top idle]
      exact .free (unfed.below top)
  | poll place after idle taken =>
      obtain ⟨agenda, posts⟩ := pollAt?_posts taken
      exact .free (posts.unfed unfed)
  | pass moment idle later => exact .free unfed

/-- An edition that is not new has been there before, under the same identity, and has been entering
if it is entering now. -/
structure Recedes (engine after : Engine) : Prop where
  numbers : engine.numbers ≤ after.numbers
  origin : ∀ new ∈ after.store.toasts, new.edition ≤ engine.numbers →
    ∃ old ∈ engine.store.toasts, old.edition = new.edition ∧ old.id = new.id ∧
      (new.lifecycle = .entering → old.lifecycle = .entering)

theorem Recedes.refl (engine : Engine) : Recedes engine engine :=
  ⟨Nat.le_refl _, fun new member _ => ⟨new, member, rfl, rfl, id⟩⟩

theorem Makes.origin {change : Change} (made : Makes engine after change) (new : Toast)
    (member : new ∈ after.store.toasts) (given : new.edition ≤ engine.numbers) :
    ∃ old ∈ engine.store.toasts, old.edition = new.edition ∧ old.id = new.id ∧
      (new.lifecycle = .entering → old.lifecycle = .entering) := by
  have stays (there : new ∈ engine.store.toasts) : ∃ old ∈ engine.store.toasts,
      old.edition = new.edition ∧ old.id = new.id ∧
        (new.lifecycle = .entering → old.lifecycle = .entering) :=
    ⟨new, there, rfl, rfl, id⟩
  cases made with
  | revision toast options number found live newer store =>
      rw [store] at member
      rcases Store.mem_replaceFirst found member with rfl | kept
      · -- A revision is a new edition.
        exact absurd given (Nat.not_le_of_lt newer.1)
      · exact stays kept
  | creation toast options number made newer store =>
      rw [store] at member
      rcases List.mem_append.mp member with kept | last
      · exact stays (List.mem_filter.mp kept).1
      · rw [List.mem_singleton.mp last, made] at given
        exact absurd given (Nat.not_le_of_lt newer.1)
  | departure toast found live store =>
      rw [store] at member
      rcases Store.mem_replaceFirst found member with rfl | kept
      · exact ⟨toast, Store.mem_of_get? found, rfl, rfl, Toast.entering_of_leave⟩
      · exact stays kept
  | paint toast painted found made store =>
      rw [store] at member
      rcases Store.mem_replaceFirst found member with rfl | kept
      · obtain ⟨entering, rfl⟩ := Toast.painted?_some made
        exact ⟨toast, Store.mem_of_get? found, rfl, rfl, fun _ => entering⟩
      · exact stays kept
  | removal doomed some store =>
      rw [store] at member
      exact stays (List.mem_filter.mp member).1

theorem Stride.recedes (stride : Stride engine event after) (managed : event.isManaged = true)
    (orderly : Orderly engine) : Recedes engine after := by
  refine ⟨(stride.move managed).numbers orderly, ?_⟩
  cases stride.edits managed with
  | keeps toasts version refused =>
      rw [toasts]
      exact fun new member _ => ⟨new, member, rfl, rfl, id⟩
  | makes change asked made => exact fun new member given => made.origin new member given

def Reached (engine : Engine) : Prop :=
  ∃ settings defaults now, ∃ run : Run (fresh settings defaults now) engine, run.Managed

namespace Reached

variable (reached : Reached engine)
include reached

theorem orderly : Orderly engine := by
  obtain ⟨settings, defaults, now, run, managed⟩ := reached
  exact run.orderly managed

theorem informed : Informed engine := by
  obtain ⟨settings, defaults, now, run, managed⟩ := reached
  exact run.accounted.informed

theorem coherent : ∀ toast ∈ engine.store.toasts, toast.Coherent := by
  obtain ⟨settings, defaults, now, run, managed⟩ := reached
  exact run.coherent managed

theorem next (stride : Stride engine event after) (managed : event.isManaged = true) :
    Reached after := by
  obtain ⟨settings, defaults, now, run, kept⟩ := reached
  exact ⟨settings, defaults, now, run.next event stride, kept, managed⟩

theorem spawn (turn : engine.isCallersTurn = true) (delay : Span) (ticket : Nat) :
    Reached { engine with agenda := engine.agenda.spawn delay (.errand ticket) } := by
  have asked := reached.next (.request (.errand delay ticket) turn) rfl
  exact asked.next (.handBack (.returned .done) engine.frames rfl rfl) rfl

end Reached

end Engine

namespace Console

inductive Cue where
  | own
  | aside (event : Event)

def Easel.put (easel : Easel) (snapshot : List Toast) : Easel :=
  { easel with
    queue := if easel.queue.length < easel.capacity then easel.queue ++ [snapshot] else easel.queue
    awake := true }

theorem Easel.mem_put {easel : Easel} {snapshot other : List Toast}
    (member : other ∈ (easel.put snapshot).queue) : other ∈ easel.queue ∨ other = snapshot := by
  simp only [Easel.put] at member
  split at member
  · simpa using member
  · exact .inl member

theorem Easel.prefix_put (easel : Easel) (snapshot : List Toast) :
    easel.queue <+: (easel.put snapshot).queue := by
  simp only [Easel.put]
  split
  · exact List.prefix_append _ _
  · exact List.prefix_rfl

def Easel.drawn (easel : Easel) (engine : Engine) (snapshot : List Toast)
    (queue : List (List Toast)) : Easel :=
  { easel with
    renderer := (easel.renderer.draw engine snapshot).1, queue
    reports := Renderer.reports snapshot }

def Easel.woken (easel : Easel) (agenda : Agenda Deed) : Agenda Deed :=
  if easel.awake then agenda else agenda.spawn .zero (.errand paintTicket)

namespace Stage

variable {stage after start middle finish : Stage} {engine : Engine} {easel : Easel}
  {picture : Option Picture} {pictures more : List Picture}

def isFed (stage : Stage) : Bool :=
  stage.easel.any fun easel => stage.engine.frames.head?.any (·.feeds easel.feed)

def isPainting (stage : Stage) : Bool :=
  match stage.engine.frames with
  | .caller (.errand ticket) :: _ => ticket == paintTicket
  | _ => false

/-- Whether this may happen besides the stage's own steps. The renderer does nothing but take the
snapshot that it is handed, and ends its errand itself. But others may ask for something while it has
the turn. -/
def allows (stage : Stage) : Event → Bool
  | .proceed => false
  | .request operation => !operation.isWrite && !stage.isFed
  | .handBack => !stage.isFed && !stage.isPainting
  | .poll _ => true
  | .pass _ => true

def follow? (stage : Stage) : Cue → Option (Stage × Option Picture)
  | .own => stage.step?
  | .aside event =>
      if stage.allows event then
        (stage.engine.follow? event).map fun engine => ({ stage with engine }, none)
      else none

/-- What a stage comes to, with the frames that are drawn meanwhile. -/
inductive Run (start : Stage) : Stage → List Picture → Prop where
  | start : Run start start []
  | next {stage after : Stage} {pictures : List Picture} {picture : Option Picture}
      (run : Run start stage pictures) (cue : Cue)
      (followed : stage.follow? cue = some (after, picture)) :
      Run start after (pictures ++ picture.toList)

def play? (stage : Stage) : List Cue → Option (Stage × List Picture)
  | [] => some (stage, [])
  | cue :: rest =>
      (stage.follow? cue).bind fun (after, picture) =>
        (after.play? rest).map fun (finish, pictures) => (finish, picture.toList ++ pictures)

theorem Run.append (run : Run start middle pictures) (sequel : Run middle finish more) :
    Run start finish (pictures ++ more) := by
  induction sequel with
  | start => rwa [List.append_nil]
  | next sequel cue followed ih =>
      rw [← List.append_assoc]
      exact ih.next cue followed

theorem Run.single {cue : Cue} (followed : stage.follow? cue = some (after, picture)) :
    Run stage after picture.toList := Run.start.next cue followed

theorem run_of_play? {cues : List Cue} (played : stage.play? cues = some (finish, pictures)) :
    Run stage finish pictures := by
  induction cues generalizing stage pictures with
  | nil =>
      obtain ⟨rfl, rfl⟩ := Prod.mk.inj (Option.some.inj played)
      exact .start
  | cons cue rest ih =>
      obtain ⟨⟨after, picture⟩, followed, played⟩ := Option.bind_eq_some_iff.mp played
      obtain ⟨⟨last, pictures⟩, later, same⟩ := Option.map_eq_some_iff.mp played
      obtain ⟨rfl, rfl⟩ := Prod.mk.inj same
      exact (Run.single followed).append (ih later)

inductive Advances (engine : Engine) (easel : Easel) :
    Engine → Easel → Option Picture → Prop where
  /-- The engine goes on by itself, or others have to do with it. -/
  | strides (event : Event) (next : Engine) (stride : Engine.Stride engine event next)
      (managed : event.isManaged = true)
      (apart : ∀ frame ∈ engine.frames.head?, frame.feeds easel.feed = false) :
      Advances engine easel next easel none
  /-- A snapshot is queued for the renderer, or lost, and the renderer is woken. -/
  | takes (listener : Listener) (snapshot : List Toast) (rest : List Frame)
      (top : engine.frames = .caller (.deliver listener snapshot) :: rest)
      (own : listener.id = easel.feed) :
      Advances engine easel { engine with agenda := easel.woken engine.agenda, frames := rest }
        (easel.put snapshot) none
  | reports (id : ToastId) (reports : List ToastId) (rest : List Frame)
      (top : engine.frames = .caller (.errand paintTicket) :: rest)
      (due : easel.reports = id :: reports) :
      Advances engine easel (engine.request (.markVisible id)) { easel with reports } none
  | draws (snapshot : List Toast) (queue : List (List Toast)) (rest : List Frame)
      (top : engine.frames = .caller (.errand paintTicket) :: rest) (done : easel.reports = [])
      (waiting : easel.queue = snapshot :: queue) :
      Advances engine easel engine (easel.drawn engine snapshot queue)
        (some (easel.renderer.draw engine snapshot).2)
  | sleeps (rest : List Frame) (top : engine.frames = .caller (.errand paintTicket) :: rest)
      (done : easel.reports = []) (empty : easel.queue = []) :
      Advances engine easel { engine with frames := rest } { easel with awake := false } none

theorem feed_eq {listener : Listener} {snapshot : List Toast} {rest : List Frame}
    (top : stage.engine.frames = .caller (.deliver listener snapshot) :: rest) :
    stage.feed easel snapshot =
      { engine := { stage.engine with agenda := easel.woken stage.engine.agenda, frames := rest }
        easel := some (easel.put snapshot) } := by
  have popped : ∀ agenda, { stage.engine with agenda }.resumeTurn =
      { stage.engine with agenda, frames := rest } :=
    fun agenda => Engine.resumeTurn_pops top rfl
  simp only [feed, popped, Easel.put, Easel.woken]
  by_cases room : easel.queue.length < easel.capacity <;> simp [room]

theorem paint_advances {rest : List Frame}
    (top : stage.engine.frames = .caller (.errand paintTicket) :: rest)
    (painted : stage.paint easel = (after, picture)) :
    ∃ next, after.easel = some next ∧ Advances stage.engine easel after.engine next picture := by
  rw [paint] at painted
  split at painted
  next id reports due =>
      obtain ⟨rfl, rfl⟩ := Prod.mk.inj painted
      exact ⟨_, rfl, .reports id reports rest top due⟩
  next snapshot queue done waiting =>
      obtain ⟨rfl, rfl⟩ := Prod.mk.inj painted
      exact ⟨_, rfl, .draws snapshot queue rest top done waiting⟩
  next done empty =>
      obtain ⟨rfl, rfl⟩ := Prod.mk.inj painted
      rw [Engine.resumeTurn_pops top rfl]
      exact ⟨_, rfl, .sleeps rest top done empty⟩

theorem step?_work {frame : Frame} {rest : List Frame} (top : stage.engine.frames = frame :: rest)
    (work : frame.isWork = true) :
    stage.step? = some ({ stage with engine := stage.engine.step }, none) := by
  cases frame with
  | caller call => cases work
  | returned answer => cases work
  | _ => simp [step?, Engine.turn, top]

theorem step?_advances (staged : stage.easel = some easel)
    (stepped : stage.step? = some (after, picture)) :
    ∃ next, after.easel = some next ∧ Advances stage.engine easel after.engine next picture := by
  cases top : stage.engine.frames with
  | nil => simp [step?, Engine.turn, top] at stepped
  | cons frame rest =>
      cases work : frame.isWork with
      | true =>
          rw [step?_work top work] at stepped
          obtain ⟨rfl, rfl⟩ := Prod.mk.inj (Option.some.inj stepped)
          refine ⟨easel, staged, .strides .proceed _ (.proceed frame rest top work) rfl ?_⟩
          intro first head
          obtain rfl : frame = first := by simpa [top] using head
          cases frame <;> first | rfl | cases work
      | false =>
          cases frame with
          | caller call =>
              cases call with
              | deliver listener snapshot =>
                  obtain ⟨own, fed⟩ : listener.id = easel.feed ∧
                      (stage.feed easel snapshot, none) = (after, picture) := by
                    simpa [step?, Engine.turn, top, staged] using stepped
                  obtain ⟨rfl, rfl⟩ := Prod.mk.inj fed
                  rw [feed_eq top]
                  exact ⟨_, rfl, .takes listener snapshot rest top own⟩
              | errand ticket =>
                  obtain ⟨rfl, painted⟩ : ticket = paintTicket ∧
                      stage.paint easel = (after, picture) := by
                    simpa [step?, Engine.turn, top, staged] using stepped
                  exact paint_advances top painted
              | _ => simp [step?, Engine.turn, top] at stepped
          | returned answer =>
              have popped := Engine.resumeTurn_pops top rfl
              obtain ⟨rfl, rfl⟩ : { stage with engine := stage.engine.resumeTurn } = after ∧
                  none = picture := by
                simp only [step?, Engine.turn, top, staged] at stepped
                split at stepped
                next => simpa [staged] using (Option.ite_none_right_eq_some.mp stepped).2
                next => cases stepped
              refine ⟨easel, staged, .strides .handBack _ (.handBack _ rest top rfl) rfl ?_⟩
              intro first head
              obtain rfl : Frame.returned answer = first := by simpa [top] using head
              rfl
          | _ => cases work

theorem follow?_advances {cue : Cue} (staged : stage.easel = some easel)
    (followed : stage.follow? cue = some (after, picture)) :
    ∃ next, after.easel = some next ∧ Advances stage.engine easel after.engine next picture := by
  cases cue with
  | own => exact step?_advances staged followed
  | aside event =>
      simp only [follow?] at followed
      split at followed
      next allowed =>
          obtain ⟨engine, stepped, same⟩ := Option.map_eq_some_iff.mp followed
          obtain ⟨rfl, rfl⟩ := Prod.mk.inj same
          have stride := Engine.follow?_stride stepped
          have managed : event.isManaged = true := by
            cases event <;> simp_all [allows, Event.isManaged]
          refine ⟨easel, staged, .strides event engine stride managed fun first head => ?_⟩
          have unfed (apart : stage.isFed = false) : first.feeds easel.feed = false := by
            simpa [isFed, staged, Option.mem_def.mp head] using apart
          cases stride with
          | request operation turn => exact unfed (by simp_all [allows])
          | proceed frame rest top work => cases allowed
          | handBack frame rest top idle => exact unfed (by simp_all [allows])
          | poll place after idle taken => simp [idle] at head
          | pass moment idle later => simp [idle] at head
      next => cases followed

structure Seen (engine : Engine) (snapshot : List Toast) : Prop where
  distinct : (snapshot.map (·.edition)).Nodup
  numbered : ∀ toast ∈ snapshot, toast.edition ≤ engine.numbers
  coherent : ∀ toast ∈ snapshot, toast.Coherent
  same : ∀ toast ∈ snapshot, ∀ record ∈ engine.store.toasts, record.edition = toast.edition →
    record.id = toast.id

theorem Seen.present (reached : engine.Reached) : Seen engine engine.store.toasts where
  distinct := reached.orderly.editions
  numbered := reached.orderly.numbered
  coherent := reached.coherent
  same toast member record present edition := by
    rw [reached.orderly.eq_of_edition present member edition]

theorem Seen.later {next : Engine} {snapshot : List Toast} (seen : Seen engine snapshot)
    (recedes : engine.Recedes next) : Seen next snapshot where
  distinct := seen.distinct
  numbered toast member := Nat.le_trans (seen.numbered toast member) recedes.numbers
  coherent := seen.coherent
  same toast member record present edition := by
    obtain ⟨old, there, edition', id, _⟩ :=
      recedes.origin record present (edition ▸ seen.numbered toast member)
    rw [← id, seen.same toast member old there (edition'.trans edition)]

structure Supplied (engine : Engine) (easel : Easel) : Prop where
  reached : engine.Reached
  handing : engine.Handing easel.feed
  queued : ∀ snapshot ∈ easel.queue, Seen engine snapshot

theorem Supplied.unfed {ticket : Nat} {rest : List Frame} (supplied : Supplied engine easel)
    (top : engine.frames = .caller (.errand ticket) :: rest) :
    Engine.Unfed easel.feed engine.frames := by
  cases supplied.handing with
  | free unfed => exact unfed
  | feeding listener rest own top' unfed => cases top.symm.trans top'

theorem Supplied.fed {listener : Listener} {snapshot : List Toast} {rest : List Frame}
    (supplied : Supplied engine easel)
    (top : engine.frames = .caller (.deliver listener snapshot) :: rest)
    (own : listener.id = easel.feed) :
    snapshot = engine.store.toasts ∧ Engine.Unfed easel.feed rest := by
  cases supplied.handing with
  | free unfed =>
      have first := unfed (.caller (.deliver listener snapshot)) (by simp [top])
      simp [Frame.feeds, own] at first
  | feeding listener rest own top' unfed =>
      cases top.symm.trans top'
      exact ⟨rfl, unfed⟩

section Advances

variable {next : Engine} {easel' : Easel}

theorem Advances.reached (advances : Advances engine easel next easel' picture)
    (reached : engine.Reached) : next.Reached := by
  cases advances with
  | strides event next stride managed apart => exact reached.next stride managed
  | takes listener snapshot rest top own =>
      have turn := Engine.isCallersTurn_of_call top
      have popped {agenda : Agenda Deed} (woken : Engine.Reached { engine with agenda }) :
          Engine.Reached { engine with agenda, frames := rest } := by
        have shape : { engine with agenda }.resumeTurn = { engine with agenda, frames := rest } :=
          Engine.resumeTurn_pops top rfl
        exact shape ▸ woken.next (.handBack _ rest top rfl) rfl
      cases awake : easel.awake with
      | true =>
          simp only [Easel.woken, awake, if_true]
          exact popped reached
      | false =>
          simp only [Easel.woken, awake]
          exact popped (reached.spawn turn .zero paintTicket)
  | reports id reports rest top due =>
      exact reached.next (.request (.markVisible id) (Engine.isCallersTurn_of_call top)) rfl
  | draws snapshot queue rest top done waiting => exact reached
  | sleeps rest top done empty =>
      have handed := reached.next (.handBack _ rest top rfl) rfl
      rwa [Engine.resumeTurn_pops top rfl] at handed

theorem Advances.recedes (advances : Advances engine easel next easel' picture)
    (reached : engine.Reached) : engine.Recedes next := by
  cases advances with
  | strides event next stride managed apart => exact stride.recedes managed reached.orderly
  | reports id reports rest top due =>
      exact Engine.Stride.recedes (.request (.markVisible id) (Engine.isCallersTurn_of_call top))
        rfl reached.orderly
  | draws snapshot queue rest top done waiting => exact .refl engine
  | _ => exact ⟨Nat.le_refl _, fun new member _ => ⟨new, member, rfl, rfl, id⟩⟩

/-- Every snapshot that waits after a step has waited before it, or is the present one. -/
theorem Advances.waits (advances : Advances engine easel next easel' picture)
    (supplied : Supplied engine easel) {snapshot : List Toast}
    (waiting : snapshot ∈ easel'.queue) :
    snapshot ∈ easel.queue ∨ snapshot = engine.store.toasts := by
  cases advances with
  | takes listener handed rest top own =>
      obtain ⟨present, _⟩ := supplied.fed top own
      exact (Easel.mem_put waiting).imp_right (·.trans present)
  | draws drawn queue rest top done first =>
      rw [first]
      exact .inl (List.mem_cons_of_mem _ waiting)
  | _ => exact .inl waiting

theorem Advances.supplied (advances : Advances engine easel next easel' picture)
    (supplied : Supplied engine easel) : Supplied next easel' where
  reached := advances.reached supplied.reached
  queued snapshot waiting := by
    have recedes := advances.recedes supplied.reached
    rcases advances.waits supplied waiting with before | rfl
    · exact (supplied.queued snapshot before).later recedes
    · exact (Seen.present supplied.reached).later recedes
  handing := by
    cases advances with
    | strides event next stride managed apart =>
        refine stride.handing supplied.reached.informed ?_
        cases supplied.handing with
        | free unfed => exact unfed
        | feeding listener rest own top unfed =>
            have first := apart (.caller (.deliver listener engine.store.toasts)) (by simp [top])
            simp [Frame.feeds, own] at first
    | takes listener snapshot rest top own => exact .free (supplied.fed top own).2
    | reports id reports rest top due =>
        have stride : engine.Stride (.request (.markVisible id)) _ :=
          .request (.markVisible id) (Engine.isCallersTurn_of_call top)
        exact stride.handing supplied.reached.informed (supplied.unfed top)
    | draws snapshot queue rest top done waiting => exact .free (supplied.unfed top)
    | sleeps rest top done empty => exact .free ((supplied.unfed top).below top)

end Advances

theorem Run.invariant {kept : List Picture → Engine → Easel → Prop}
    (run : Run start finish pictures)
    (first : ∃ easel, start.easel = some easel ∧ kept [] start.engine easel)
    (keeps : ∀ {pictures engine easel next easel' picture},
      Advances engine easel next easel' picture → kept pictures engine easel →
        kept (pictures ++ picture.toList) next easel') :
    ∃ easel, finish.easel = some easel ∧ kept pictures finish.engine easel := by
  induction run with
  | start => exact first
  | next run cue followed ih =>
      obtain ⟨easel, staged, held⟩ := ih
      obtain ⟨easel', staged', advances⟩ := follow?_advances staged followed
      exact ⟨easel', staged', keeps advances held⟩

theorem supplied_withRenderer (settings : Settings) (defaults : Defaults) (now capacity : Nat) :
    ∃ easel, (withRenderer (.fresh settings defaults now) capacity).easel = some easel ∧
      Supplied (withRenderer (.fresh settings defaults now) capacity).engine easel := by
  refine ⟨_, rfl, ?_, .free (by simp [withRenderer, Engine.fresh, Engine.Unfed]), by simp⟩
  have fresh : (Engine.fresh settings defaults now).Reached :=
    ⟨settings, defaults, now, .start, trivial⟩
  have subscribed := (fresh.next (.request (.subscribe ⟨0⟩) rfl) rfl).next
    (.handBack (.returned (.listener 1)) [] rfl rfl) rfl
  exact subscribed.spawn rfl .zero paintTicket

end Stage

end Console

end Toasts

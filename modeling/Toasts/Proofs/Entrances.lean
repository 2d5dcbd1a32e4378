import Toasts.Proofs.Pictures
import Toasts.Proofs.Refusals
import Toasts.Proofs.Staging

/-!
Motions on the console. The renderer remembers the exits that it has begun, so each begins once. It
does not remember entrances: it reports what it has drawn entering as painted, and relies on later
snapshots to say so. A snapshot that has been waiting since before the report does not, and if the
toast is still known when it is drawn, the entrance begins again. Apart from those that wait when the
report is made, no snapshot lets the entrance begin again.
-/

namespace Toasts

theorem Engine.Presented.isSome {engine after : Engine} {options : Options} {id other : ToastId}
    (presented : Presented engine options other after.store.toasts) (named : options.id = some id) :
    (after.get? id).isSome = true := by
  cases presented with
  | refreshed toast named' found live made =>
      obtain rfl := Option.some.inj (named.symm.trans named')
      obtain rfl := Store.id_of_get? found
      rw [get?_replaced found (by rfl) made, if_pos rfl]
      rfl
  | created toast dead made answer appended =>
      have own : toast.id = id := by
        rw [made]
        simp [Toast.create, Options.merged, named]
      subst answer
      rw [get?_put appended, if_pos own]
      rfl

namespace Console.Stage

variable {engine next : Engine} {easel easel' : Easel} {picture : Option Picture}
  {pictures : List Picture} {edition : Nat}

def Entering (edition : Nat) (snapshot : List Toast) : Prop :=
  ∃ toast ∈ snapshot, toast.edition = edition ∧ toast.lifecycle = .entering

theorem painted_of_markVisible {id : ToastId} (reached : engine.Reached)
    (turn : engine.isCallersTurn = true) :
    ∀ toast ∈ (engine.request (.markVisible id)).store.toasts, toast.id = id →
      toast.lifecycle ≠ .entering := by
  have stride : engine.Stride (.request (.markVisible id)) _ := .request (.markVisible id) turn
  have orderly := (reached.next stride rfl).orderly
  rintro toast member rfl entering
  have found := orderly.get?_of_mem member
  cases stride.edits rfl with
  | keeps toasts version refused =>
      have before := (Engine.get?_congr toasts toast.id).symm.trans found
      have unpainted : toast.painted? = none := refused (.paint toast.id) rfl toast before
      rw [Toast.painted?_of_entering entering] at unpainted
      cases unpainted
  | makes change asked made =>
      obtain rfl : Change.paint toast.id = change := Option.some.inj asked
      generalize named : toast.id = id at made found
      cases made with
      | paint old painted present made store =>
          obtain ⟨_, seen⟩ := Toast.painted?_some made
          have same : painted.id = old.id := by rw [seen]
          have look := Engine.get?_replaced present same (congrArg Store.toasts store) old.id
          rw [if_pos rfl, found] at look
          rw [Option.some.inj look, seen] at entering
          cases entering

/-- What is true of the motions that have begun: no exit has begun twice, and the renderer remembers
them all; the entrances of one frame are distinct; and a toast whose entrance has begun is painted by
now, or about to be reported as painted. -/
structure Played (pictures : List Picture) (engine : Engine) (easel : Easel) : Prop
    extends Supplied engine easel where
  exits : (pictures.flatMap (·.begun .exit)).Nodup
  remembered : ∀ edition ∈ pictures.flatMap (·.begun .exit), edition ∈ easel.renderer.exited
  distinct : ∀ picture ∈ pictures, (picture.begun .enter).Nodup
  numbered : ∀ edition ∈ pictures.flatMap (·.begun .enter), edition ≤ engine.numbers
  reported : ∀ edition ∈ pictures.flatMap (·.begun .enter), ∀ toast ∈ engine.store.toasts,
    toast.edition = edition → toast.lifecycle = .entering → toast.id ∈ easel.reports

theorem Played.start (supplied : Supplied engine easel) : Played [] engine easel :=
  { supplied with
    exits := List.nodup_nil
    remembered := by simp
    distinct := by simp
    numbered := by simp
    reported := by simp }

theorem Advances.begun (advances : Advances engine easel next easel' picture)
    (played : Played pictures engine easel) : ∀ edition ∈ pictures.flatMap (·.begun .enter),
      edition ≤ next.numbers ∧ ∀ toast ∈ next.store.toasts, toast.edition = edition →
        toast.lifecycle = .entering → toast.id ∈ easel.reports := by
  have recedes := advances.recedes played.reached
  intro edition begun
  have given := played.numbered edition begun
  refine ⟨Nat.le_trans given recedes.numbers, fun toast member same entering => ?_⟩
  obtain ⟨old, present, edition', id, entering'⟩ := recedes.origin toast member (same ▸ given)
  exact id ▸ played.reported edition begun old present (edition'.trans same) (entering' entering)

/-- A frame is drawn when all paints of the one before have been reported. -/
theorem Played.draws {snapshot : List Toast} {queue : List (List Toast)}
    (played : Played pictures engine easel) (done : easel.reports = [])
    (waiting : easel.queue = snapshot :: queue)
    (supplied : Supplied engine (easel.drawn engine snapshot queue)) :
    Played (pictures ++ [(easel.renderer.draw engine snapshot).2]) engine
      (easel.drawn engine snapshot queue) := by
  have seen := played.queued snapshot (by simp [waiting])
  obtain ⟨exits, kept, new⟩ := easel.renderer.begun_exit engine snapshot
  refine { supplied with exits := ?_, remembered := ?_, distinct := ?_, numbered := ?_,
                         reported := ?_ }
  · rw [List.flatMap_append, List.flatMap_singleton, List.nodup_append]
    refine ⟨played.exits, exits, fun edition begun other again same => ?_⟩
    exact (new other again).1 (same ▸ played.remembered edition begun)
  · intro edition begun
    rcases mem_begun_append.mp begun with earlier | now
    · exact kept edition (played.remembered edition earlier)
    · exact (new edition now).2
  · intro picture member
    rcases List.mem_append.mp member with earlier | now
    · exact played.distinct picture earlier
    · rw [List.mem_singleton.mp now]
      exact Renderer.begun_enter_distinct seen.distinct
  · intro edition begun
    rcases mem_begun_append.mp begun with earlier | now
    · exact played.numbered edition earlier
    · obtain ⟨toast, member, rfl, _⟩ := Renderer.mem_begun_enter.mp now
      exact seen.numbered toast member
  · intro edition begun record present same entering
    rcases mem_begun_append.mp begun with earlier | now
    · have listed := played.reported edition earlier record present same entering
      rw [done] at listed
      cases listed
    · obtain ⟨toast, member, edition', _, shown, _⟩ := Renderer.mem_begun_enter.mp now
      have id := seen.same toast member record present (same.trans edition'.symm)
      exact Renderer.mem_reports.mpr ⟨toast, member, shown, id.symm⟩

theorem Advances.played (advances : Advances engine easel next easel' picture)
    (played : Played pictures engine easel) : Played (pictures ++ picture.toList) next easel' := by
  have supplied := advances.supplied played.toSupplied
  have begun := advances.begun played
  -- Where nothing is drawn, only what is still to be reported counts.
  have undrawn (none : picture = none) (same : easel'.renderer = easel.renderer)
      (reported : ∀ edition ∈ pictures.flatMap (·.begun .enter), ∀ toast ∈ next.store.toasts,
        toast.edition = edition → toast.lifecycle = .entering → toast.id ∈ easel'.reports) :
      Played (pictures ++ picture.toList) next easel' := by
    subst none
    rw [Option.toList_none, List.append_nil]
    exact { supplied with
      exits := played.exits
      remembered := same ▸ played.remembered
      distinct := played.distinct
      numbered := fun edition entered => (begun edition entered).1
      reported := reported }
  have stays := fun edition entered => (begun edition entered).2
  cases advances with
  | strides event next stride managed apart => exact undrawn rfl rfl stays
  | takes listener snapshot rest top own => exact undrawn rfl rfl stays
  | sleeps rest top done empty => exact undrawn rfl rfl stays
  | reports id reports rest top due =>
      refine undrawn rfl rfl fun edition entered toast member same entering => ?_
      have listed := stays edition entered toast member same entering
      rw [due] at listed
      rcases List.mem_cons.mp listed with now | later
      · have turn := Engine.isCallersTurn_of_call top
        exact absurd entering (painted_of_markVisible played.reached turn toast member now)
      · exact later
  | draws snapshot queue rest top done waiting => exact played.draws done waiting supplied

/-- The entrance of an edition lies in the past: it is not entering, and no snapshot that waits for
the renderer says that it is. -/
structure Past (edition : Nat) (engine : Engine) (easel : Easel) : Prop
    extends Supplied engine easel where
  numbered : edition ≤ engine.numbers
  present : ¬ Entering edition engine.store.toasts
  queue : ∀ snapshot ∈ easel.queue, ¬ Entering edition snapshot

theorem Advances.past (advances : Advances engine easel next easel' picture)
    (past : Past edition engine easel) :
    Past edition next easel' ∧ ∀ frame ∈ picture, edition ∉ frame.begun .enter := by
  have recedes := advances.recedes past.reached
  refine ⟨{ advances.supplied past.toSupplied with
    numbered := Nat.le_trans past.numbered recedes.numbers
    present := ?_
    queue := ?_ }, ?_⟩
  · rintro ⟨toast, member, rfl, entering⟩
    obtain ⟨old, there, same, _, before⟩ := recedes.origin toast member past.numbered
    exact past.present ⟨old, there, same, before entering⟩
  · intro snapshot waiting
    rcases advances.waits past.toSupplied waiting with before | rfl
    · exact past.queue snapshot before
    · exact past.present
  · cases advances with
    | draws snapshot queue rest top done waiting =>
        intro frame drawn begun
        obtain rfl := Option.some.inj (Option.mem_def.mp drawn)
        obtain ⟨toast, member, same, _, entering, _⟩ := Renderer.mem_begun_enter.mp begun
        exact past.queue snapshot (by simp [waiting]) ⟨toast, member, same, entering⟩
    | _ => simp

section Continuations

variable {stage after later : Stage} {easel'' : Easel} {below : List Frame}

/-- A stage gets on without drawing anything: the toasts stay as they are, and all that the renderer
gets are more snapshots. -/
structure Settles (stage : Stage) (easel : Easel) (after : Stage) (easel' : Easel) : Prop where
  run : Run stage after []
  staged : after.easel = some easel'
  toasts : after.engine.store.toasts = stage.engine.store.toasts
  reports : easel'.reports = easel.reports
  queue : easel.queue <+: easel'.queue

theorem Settles.trans (first : Settles stage easel after easel')
    (second : Settles after easel' later easel'') : Settles stage easel later easel'' where
  run := first.run.append second.run
  staged := second.staged
  toasts := second.toasts.trans first.toasts
  reports := second.reports.trans first.reports
  queue := first.queue.trans second.queue

theorem Settles.beside {cue : Cue} (staged : stage.easel = some easel)
    (followed : stage.follow? cue = some ({ stage with engine }, none))
    (toasts : engine.store.toasts = stage.engine.store.toasts) :
    Settles stage easel { stage with engine } easel where
  run := .single followed
  staged := staged
  toasts := toasts
  reports := rfl
  queue := List.prefix_rfl

theorem Settles.work {frame : Frame} {rest : List Frame} (staged : stage.easel = some easel)
    (top : stage.engine.frames = frame :: rest) (work : frame.isWork = true)
    (toasts : stage.engine.step.store.toasts = stage.engine.store.toasts) :
    Settles stage easel { stage with engine := stage.engine.step } easel := by
  have stepped : stage.follow? .own = some ({ stage with engine := stage.engine.step }, none) :=
    step?_work top work
  exact .beside staged stepped toasts

theorem delivery_settles {listener : Listener} {snapshot : List Toast}
    (staged : stage.easel = some easel)
    (top : stage.engine.frames = .caller (.deliver listener snapshot) :: below) :
    ∃ after easel', Settles stage easel after easel' ∧ after.engine.frames = below := by
  by_cases own : listener.id = easel.feed
  · have stepped : stage.follow? .own = some (stage.feed easel snapshot, none) := by
      simp [follow?, step?, Engine.turn, top, staged, own]
    rw [feed_eq top] at stepped
    exact ⟨_, easel.put snapshot, ⟨.single stepped, rfl, rfl, rfl, easel.prefix_put snapshot⟩, rfl⟩
  · have popped := Engine.resumeTurn_pops top rfl
    have followed : stage.follow? (.aside .handBack) =
        some ({ stage with engine := stage.engine.resumeTurn }, none) := by
      simp [follow?, allows, isFed, isPainting, Engine.follow?, top, staged, Frame.feeds, own,
        Frame.isWork]
    exact ⟨_, easel, .beside staged followed (by rw [popped]), by rw [popped]⟩

theorem announcement_settles {version : Nat} {snapshot : List Toast} {pending : List Listener}
    (staged : stage.easel = some easel)
    (top : stage.engine.frames = .publish version snapshot pending :: below) :
    ∃ after easel', Settles stage easel after easel' ∧ after.engine.frames = below := by
  induction pending generalizing stage easel with
  | nil =>
      have done : stage.engine.step = { stage.engine with frames := below } := by
        simp [Engine.step, top, Engine.work]
      exact ⟨_, easel, .work staged top rfl (by rw [done]), by rw [done]⟩
  | cons listener pending ih =>
      by_cases current : stage.engine.store.version = version
      · have handed : stage.engine.step = { stage.engine with
            frames := .caller (.deliver listener snapshot) ::
              .publish version snapshot pending :: below } := by
          simp [Engine.step, top, Engine.work, current, Engine.push]
        have first := Settles.work staged top rfl (by rw [handed])
        obtain ⟨middle, easel', second, rest⟩ := delivery_settles first.staged (by rw [handed])
        obtain ⟨after, easel'', third, frames⟩ := ih second.staged rest
        exact ⟨after, easel'', (first.trans second).trans third, frames⟩
      · have done : stage.engine.step = { stage.engine with frames := below } := by
          simp [Engine.step, top, Engine.work, current]
        exact ⟨_, easel, .work staged top rfl (by rw [done]), by rw [done]⟩

theorem arming_settles {id : ToastId} {lifespan : Lifespan} (staged : stage.easel = some easel)
    (top : stage.engine.frames = .arm id lifespan :: below) :
    ∃ after easel', Settles stage easel after easel' ∧ after.engine.frames = below := by
  obtain ⟨countdowns, agenda, shape⟩ :=
    Engine.arm_shape { stage.engine with frames := below } id lifespan
  have armed : stage.engine.step =
      { stage.engine with countdowns, agenda, frames := below } := by
    simp [Engine.step, top, Engine.work, shape]
  exact ⟨_, easel, .work staged top rfl (by rw [armed]), by rw [armed]⟩

theorem answer_settles {answer : Answer} (staged : stage.easel = some easel)
    (top : stage.engine.frames =
      .returned answer :: .caller (.errand paintTicket) :: below) :
    ∃ after easel', Settles stage easel after easel' ∧
      after.engine.frames = .caller (.errand paintTicket) :: below := by
  have popped := Engine.resumeTurn_pops top rfl
  have stepped : stage.follow? .own =
      some ({ stage with engine := stage.engine.resumeTurn }, none) := by
    simp [follow?, step?, Engine.turn, top, staged]
  exact ⟨_, easel, .beside staged stepped (by rw [popped]), by rw [popped]⟩

structure Painting (stage : Stage) (easel : Easel) (below : List Frame) : Prop where
  staged : stage.easel = some easel
  top : stage.engine.frames = .caller (.errand paintTicket) :: below

theorem request_markVisible (engine : Engine) (id : ToastId) : ∃ answer,
    (engine.request (.markVisible id)).frames = .returned answer :: engine.frames ∨
      ∃ version snapshot pending, (engine.request (.markVisible id)).frames =
        .publish version snapshot pending :: .returned answer :: engine.frames := by
  simp only [Engine.request, Engine.perform]
  cases engine.store.update? id Toast.painted? with
  | none => exact ⟨_, .inl rfl⟩
  | some store => exact ⟨_, .inr ⟨_, _, _, rfl⟩⟩

theorem Painting.reports_one {id : ToastId} {reports : List ToastId}
    (painting : Painting stage easel below) (due : easel.reports = id :: reports) :
    ∃ after easel', Run stage after [] ∧ Painting after easel' below ∧ easel'.reports = reports ∧
      easel.queue <+: easel'.queue := by
  let asked : Stage := ⟨stage.engine.request (.markVisible id), some { easel with reports }⟩
  have reported : stage.follow? .own = some (asked, none) := by
    simp [asked, follow?, step?, Engine.turn, painting.top, painting.staged, paint, due]
  have staged : asked.easel = some { easel with reports } := rfl
  -- What the report leaves to do above the errand is done without drawing.
  have returned : ∃ after easel', Settles asked { easel with reports } after easel' ∧
      after.engine.frames = .caller (.errand paintTicket) :: below := by
    obtain ⟨answer, silent | ⟨version, snapshot, pending, told⟩⟩ :=
      request_markVisible stage.engine id
    · rw [painting.top] at silent
      exact answer_settles staged silent
    · rw [painting.top] at told
      obtain ⟨middle, _, first, answered⟩ := announcement_settles staged told
      obtain ⟨after, easel', second, frames⟩ := answer_settles first.staged answered
      exact ⟨after, easel', first.trans second, frames⟩
  obtain ⟨after, easel', settles, frames⟩ := returned
  exact ⟨after, easel', (Run.single reported).append settles.run, ⟨settles.staged, frames⟩,
    settles.reports, settles.queue⟩

theorem Painting.reports_all (painting : Painting stage easel below) :
    ∃ after easel', Run stage after [] ∧ Painting after easel' below ∧ easel'.reports = [] ∧
      easel.queue <+: easel'.queue := by
  generalize due : easel.reports = reports
  induction reports generalizing stage easel with
  | nil => exact ⟨stage, easel, .start, painting, due, List.prefix_rfl⟩
  | cons id reports ih =>
      obtain ⟨middle, easel', first, held, rest, more⟩ := painting.reports_one due
      obtain ⟨after, easel'', second, last, none, all⟩ := ih held rest
      exact ⟨after, easel'', first.append second, last, none, more.trans all⟩

theorem Painting.draws {snapshot : List Toast} {queue : List (List Toast)}
    (painting : Painting stage easel below) (done : easel.reports = [])
    (waiting : easel.queue = snapshot :: queue) :
    stage.follow? .own =
      some ({ stage with easel := some (easel.drawn stage.engine snapshot queue) },
        some (easel.renderer.draw stage.engine snapshot).2) := by
  simp [follow?, step?, Engine.turn, painting.top, painting.staged, paint, done, waiting,
    Easel.drawn]

/-- The renderer comes to every snapshot that waits for it. -/
theorem Painting.comes_to {before rest : List (List Toast)} {snapshot : List Toast}
    (painting : Painting stage easel below) (queue : easel.queue = before ++ snapshot :: rest) :
    ∃ after easel' pictures later, Run stage after pictures ∧ Painting after easel' below ∧
      easel'.reports = [] ∧ easel'.queue = snapshot :: later := by
  induction before generalizing stage easel rest with
  | nil =>
      obtain ⟨after, easel', run, held, done, more, grown⟩ := painting.reports_all
      exact ⟨after, easel', [], rest ++ more, run, held, done, by rw [← grown, queue]; rfl⟩
  | cons other before ih =>
      obtain ⟨middle, easel', first, held, done, more, grown⟩ := painting.reports_all
      have waiting : easel'.queue = other :: (before ++ snapshot :: (rest ++ more)) := by
        rw [← grown, queue]
        simp
      have drawn := held.draws done waiting
      let goesOn := easel'.drawn middle.engine other (before ++ snapshot :: (rest ++ more))
      have painted : Painting { middle with easel := some goesOn } goesOn below := ⟨rfl, held.top⟩
      obtain ⟨after, easel'', pictures, later, second, last⟩ := ih painted rfl
      exact ⟨after, easel'', _, later, (first.append (.single drawn)).append second, last⟩

theorem Painting.shown (painting : Painting stage easel below) (id : ToastId) :
    ∃ after easel', Run stage after [] ∧ Painting after easel' below ∧
      easel'.reports = easel.reports ∧ easel.queue <+: easel'.queue ∧
      (after.engine.get? id).isSome = true := by
  let asked : Stage := { stage with engine := stage.engine.request (.present { id := some id }) }
  have followed : stage.follow? (.aside (.request (.present { id := some id }))) =
      some (asked, none) := by
    simp [asked, follow?, allows, isFed, Engine.follow?, Engine.isCallersTurn, painting.top,
      painting.staged, Frame.feeds, Operation.isWrite]
  obtain ⟨answer, version, snapshot, pending, lifespan, frames, presented⟩ :=
    stage.engine.request_present { id := some id }
  rw [painting.top] at frames
  have staged : asked.easel = some easel := painting.staged
  have there : (asked.engine.get? id).isSome = true := presented.isSome rfl
  obtain ⟨middle, _, first, arming⟩ := announcement_settles staged frames
  obtain ⟨middle', _, second, returned⟩ := arming_settles first.staged arming
  obtain ⟨after, easel', third, last⟩ := answer_settles second.staged returned
  have settles := (first.trans second).trans third
  refine ⟨after, easel', (Run.single followed).append settles.run, ⟨settles.staged, last⟩,
    settles.reports, settles.queue, ?_⟩
  rwa [Engine.get?_congr settles.toasts]

end Continuations

/-- The entrance of an edition does not begin any more, whatever happens. -/
def Over (edition : Nat) (stage : Stage) : Prop :=
  ∀ later more, Run stage later more → ∀ picture ∈ more, edition ∉ picture.begun .enter

variable {stage : Stage} {below : List Frame}

theorem Past.isOver (past : Past edition stage.engine easel) (staged : stage.easel = some easel) :
    Over edition stage := by
  let kept (pictures : List Picture) (engine : Engine) (easel : Easel) : Prop :=
    Past edition engine easel ∧ ∀ picture ∈ pictures, edition ∉ picture.begun .enter
  intro later more run
  have held : ∃ easel, later.easel = some easel ∧ kept more later.engine easel := by
    refine run.invariant ⟨easel, staged, past, by simp⟩ ?_
    rintro pictures engine easel next easel' picture advances ⟨past, never⟩
    obtain ⟨past', unbegun⟩ := advances.past past
    refine ⟨past', fun frame member => ?_⟩
    rcases List.mem_append.mp member with earlier | now
    · exact never frame earlier
    · exact unbegun frame (Option.mem_toList.mp now)
  exact held.choose_spec.2.2

/-- A snapshot that waits and shows an edition entering may be drawn yet while its identity is
known, and then the entrance begins again. -/
theorem Painting.begins_again (painting : Painting stage easel below)
    (supplied : Supplied stage.engine easel) {snapshot : List Toast}
    (waiting : snapshot ∈ easel.queue) (entering : Entering edition snapshot) :
    ¬ Over edition stage := by
  intro ended
  obtain ⟨toast, member, same, stage'⟩ := entering
  obtain ⟨before, rest, queue⟩ := List.append_of_mem waiting
  obtain ⟨middle, easel', pictures, later, first, held, done, next⟩ := painting.comes_to queue
  obtain ⟨after, easel'', second, ready, done', ⟨more, grown⟩, there⟩ := held.shown toast.id
  have drawn := ready.draws (done'.trans done) (by rw [← grown, next]; rfl)
  have run := (first.append second).append (.single drawn)
  refine ended _ _ run (easel''.renderer.draw after.engine snapshot).2 (by simp) ?_
  have live : toast.exiting = false := by
    cases exiting : toast.exiting with
    | false => rfl
    | true =>
        have leaving := ((supplied.queued snapshot waiting).coherent toast member).exiting.mp exiting
        rw [leaving] at stage'
        cases stage'
  exact Renderer.mem_begun_enter.mpr ⟨toast, member, same, live, stage', there⟩

theorem Run.played {settings : Settings} {defaults : Defaults} {now capacity : Nat}
    (run : Run (withRenderer (.fresh settings defaults now) capacity) stage pictures) :
    ∃ easel, stage.easel = some easel ∧ Played pictures stage.engine easel := by
  obtain ⟨easel, staged, supplied⟩ := supplied_withRenderer settings defaults now capacity
  exact run.invariant ⟨easel, staged, .start supplied⟩ fun advances played => advances.played played

/-- No exit begins twice, and the entrances that begin with one frame are distinct. An entrance that
has begun does not begin again, whatever happens, if no snapshot shows the edition entering that
waits once all that was drawn has been reported as painted. But while the renderer has the turn, any
entrance that a waiting snapshot shows may begin yet, whether it has begun before or not. -/
theorem entrances_exact {settings : Settings} {defaults : Defaults} {now capacity : Nat}
    (run : Run (withRenderer (.fresh settings defaults now) capacity) stage pictures) :
    (pictures.flatMap (·.begun .exit)).Nodup ∧
    (∀ picture ∈ pictures, (picture.begun .enter).Nodup) ∧
    ∃ easel, stage.easel = some easel ∧
      (easel.reports = [] → ∀ edition ∈ pictures.flatMap (·.begun .enter),
        (∀ snapshot ∈ easel.queue, ¬ Entering edition snapshot) → Over edition stage) ∧
      (stage.isPainting = true → ∀ edition, Over edition stage →
        ∀ snapshot ∈ easel.queue, ¬ Entering edition snapshot) := by
  obtain ⟨easel, staged, played⟩ := run.played
  refine ⟨played.exits, played.distinct, easel, staged, ?_, ?_⟩
  · intro done edition begun unseen
    have past : Past edition stage.engine easel :=
      { played with
        numbered := played.numbered edition begun
        present := by
          rintro ⟨toast, member, same, entering⟩
          have listed := played.reported edition begun toast member same entering
          rw [done] at listed
          cases listed
        queue := unseen }
    exact past.isOver staged
  · intro painting edition ended snapshot waiting entering
    simp only [isPainting] at painting
    split at painting
    next ticket below top =>
        have held : Painting stage easel below := ⟨staged, by rw [top, eq_of_beq painting]⟩
        exact held.begins_again played.toSupplied waiting entering ended
    next => cases painting

def putUp (name : String) : List Cue :=
  .aside (.request (.present { id := some (.named name), lifespan := some .persistent })) ::
    List.replicate 4 .own ++ [.aside .handBack]

/-- Two toasts are put up one after the other before the renderer comes to draw the first snapshot,
and reports it. -/
def backlog : List Cue :=
  putUp "x" ++ putUp "y" ++ .aside (.poll 0) :: List.replicate 6 .own

def backlogged : Stage × List Picture :=
  ((withRenderer (.fresh {} {} 0) 32).play? backlog).get rfl

/-- The second snapshot still shows the first toast entering, so that its entrance, which has begun
once, may begin again. -/
theorem backlogged_unfinished : backlogged.2.flatMap (·.begun .enter) = [1] ∧
    ¬ Over 1 backlogged.1 := by
  have run : Run (withRenderer (.fresh {} {} 0) 32) backlogged.1 backlogged.2 :=
    run_of_play? (show (withRenderer (.fresh {} {} 0) 32).play? backlog = some backlogged from rfl)
  obtain ⟨_, _, easel, staged, _, unseen⟩ := entrances_exact run
  obtain rfl : backlogged.1.easel.get rfl = easel := by
    simp [staged]
  refine ⟨rfl, fun ended => ?_⟩
  exact unseen rfl 1 ended _ List.mem_cons_self ⟨_, List.mem_cons_self, rfl, rfl⟩

/-- And with the next frame it does. -/
theorem backlogged_enters_twice : ∃ stage pictures,
    (withRenderer (.fresh {} {} 0) 32).play? (backlog ++ [.own]) = some (stage, pictures) ∧
      Run (withRenderer (.fresh {} {} 0) 32) stage pictures ∧
      pictures.flatMap (·.begun .enter) = [1, 1, 2] ∧
      ¬ (pictures.flatMap (·.begun .enter)).Nodup := by
  have played : (withRenderer (.fresh {} {} 0) 32).play? (backlog ++ [.own]) = some _ := rfl
  exact ⟨_, _, played, run_of_play? played, rfl, by decide⟩

end Console.Stage

end Toasts

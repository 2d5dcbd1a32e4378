import Toasts.Proofs.Moves

/-!
Who is told what. A stride either makes a new snapshot and announces it to the listeners of that
moment, or hands the snapshot of an announcement to the next of its listeners, or ends an announcement
that everybody has had or that is out of date, or has nothing to do with announcements. This holds of
all strides, also of those that write to the store past the engine.
-/

namespace Toasts

structure Publication where
  version : Nat
  snapshot : List Toast
  pending : List Listener

structure Delivery where
  listener : Nat
  number : Nat
  snapshot : List Toast

def Frame.publication? : Frame → Option Publication
  | .publish version snapshot pending => some ⟨version, snapshot, pending⟩
  | _ => none

def Call.delivered? : Call → Option (Nat × List Toast)
  | .deliver listener snapshot => some (listener.id, snapshot)
  | _ => none

def Frame.tells : Frame → Bool
  | .publish _ _ _ => true
  | .caller (.deliver _ _) => true
  | _ => false

inductive Store.Enrols (store : Store) : Store → Prop where
  | same : Enrols store store
  | subscribes (hook : Hook) : Enrols store (store.subscribe hook)
  | unsubscribes (number : Nat) : Enrols store (store.unsubscribe number)

namespace Engine

variable {engine after : Engine} {event : Event}

def publications (engine : Engine) : List Publication :=
  engine.frames.filterMap Frame.publication?

/-- The delivery that a stride begins, under the number of the innermost announcement. -/
def delivery? (engine after : Engine) : Option Delivery :=
  ((engine.begun? after).bind Call.delivered?).map fun (listener, snapshot) =>
    ⟨listener, (after.publications.head?.map (·.version)).getD 0, snapshot⟩

/-- What an operation does at once, as far as listeners and calls are concerned: a call that it
begins is on top of all that it leaves to do. -/
inductive Posts (engine after : Engine) : Prop where
  | silent (pushed : List Frame) (mute : ∀ frame ∈ pushed, frame.tells = false)
      (calm : ∀ frame ∈ pushed.tail, frame.call? = none)
      (store : engine.store.Enrols after.store) (frames : after.frames = pushed ++ engine.frames)
  | posts (toasts : List Toast) (rest : List Frame) (mute : ∀ frame ∈ rest, frame.tells = false)
      (calm : ∀ frame ∈ rest, frame.call? = none)
      (store : after.store = engine.store.swap toasts)
      (frames : after.frames = after.announcement :: (rest ++ engine.frames))

theorem Posts.refl (engine : Engine) : Posts engine engine :=
  .silent [] (by simp) (by simp) .same rfl

theorem Posts.beside {before later : Engine} (posts : Posts before after)
    (store : before.store = engine.store) (frames : before.frames = engine.frames)
    (sameStore : later.store = after.store) (sameFrames : later.frames = after.frames) :
    Posts engine later := by
  cases posts with
  | silent pushed mute calm enrols pushes =>
      exact .silent pushed mute calm (by rwa [sameStore, ← store])
        (by rw [sameFrames, pushes, frames])
  | posts toasts rest mute calm swaps pushes =>
      refine .posts toasts rest mute calm (by rw [sameStore, swaps, store]) ?_
      rw [sameFrames, pushes, announcement, announcement, sameStore, frames]

theorem publish_posts (engine : Engine) (toasts : List Toast) {rest : List Frame}
    (mute : ∀ frame ∈ rest, frame.tells = false) (calm : ∀ frame ∈ rest, frame.call? = none) :
    Posts engine (engine.publish (engine.store.swap toasts) rest) :=
  .posts toasts rest mute calm rfl rfl

theorem revise?_posts {id : ToastId} {options : Options}
    (revised : engine.revise? id options = some after) : Posts engine after := by
  simp only [revise?, number] at revised
  split at revised
  next => cases revised
  next toast found =>
      split at revised
      next live =>
          obtain ⟨store, updated, rfl⟩ := Option.map_eq_some_iff.mp revised
          obtain ⟨_, _, _, _, rfl⟩ := Store.update?_some updated
          have posts := publish_posts { engine with numbers := engine.numbers + 1 }
          exact (posts _ (by simp [Frame.tells]) (by simp [Frame.call?])).beside rfl rfl rfl rfl
      next => cases revised

theorem append_posts (engine : Engine) (options : Options) :
    Posts engine (engine.append options).1 := by
  have posts := publish_posts { engine with numbers := engine.numbers + 1 }
  exact (posts _ (by simp [Frame.tells]) (by simp [Frame.call?])).beside rfl rfl rfl rfl

theorem present_posts (engine : Engine) (options : Options) :
    Posts engine (engine.present options).1 := by
  simp only [present]
  split
  · split
    next revised found => exact revise?_posts found
    next => exact append_posts engine options
  · exact append_posts engine options

theorem dismiss?_posts {id : ToastId} {cause : Cause}
    (dismissed : engine.dismiss? id cause = some after) : Posts engine after := by
  simp only [dismiss?] at dismissed
  split at dismissed
  next => cases dismissed
  next toast found =>
      split at dismissed
      next live =>
          obtain ⟨store, updated, rfl⟩ := Option.map_eq_some_iff.mp dismissed
          obtain ⟨_, _, _, _, rfl⟩ := Store.update?_some updated
          exact publish_posts engine _ (by simp [Frame.tells]) (by simp [Frame.call?])
      next => cases dismissed

theorem settle_posts (engine : Engine) (number : Nat) (outcome : Outcome) :
    Posts engine (engine.settle number outcome) := by
  simp only [settle]
  split
  next => exact .refl engine
  next tracked _ =>
      cases revised : revise? { engine with
          promises := engine.promises.filter (·.number ≠ number) } tracked.toast
          (tracked.options.settled outcome) with
      | none => exact (Posts.refl engine).beside rfl rfl rfl rfl
      | some later => exact (revise?_posts revised).beside rfl rfl rfl rfl

theorem flagged_posts (engine : Engine) (changed : Option Store)
    (swaps : ∀ store, changed = some store → ∃ toasts, store = engine.store.swap toasts) :
    Posts engine (write.flagged engine changed).1 := by
  cases changed with
  | none => exact .refl engine
  | some store =>
      obtain ⟨toasts, rfl⟩ := swaps store rfl
      exact publish_posts engine toasts (by simp) (by simp)

theorem write_posts (engine : Engine) (change : StoreWrite) :
    Posts engine (engine.write change).1 := by
  have removes (doomed : Toast → Bool) : ∀ store, engine.store.removeWhere? doomed = some store →
      ∃ toasts, store = engine.store.swap toasts :=
    fun store removed => ⟨_, (Store.removeWhere?_some removed).1⟩
  cases change with
  | add toast => exact publish_posts engine _ (by simp) (by simp)
  | update id change =>
      apply flagged_posts
      intro store updated
      obtain ⟨_, revised, _, _, same⟩ := Store.update?_some updated
      exact ⟨_, same⟩
  | remove id => exact flagged_posts engine _ (removes _)
  | removeEdition id edition => exact flagged_posts engine _ (removes _)
  | clear position =>
      simp only [write]
      split
      next store cleared =>
          obtain ⟨toasts, rfl⟩ := removes _ store cleared
          exact publish_posts engine toasts (by simp) (by simp)
      next => exact .refl engine

theorem perform_posts (engine : Engine) (operation : Operation) :
    Posts engine (engine.perform operation).1 := by
  -- An operation that leaves store and frames alone.
  have apart (later : Engine) (store : later.store = engine.store)
      (frames : later.frames = engine.frames) : Posts engine later :=
    (Posts.refl engine).beside rfl rfl store frames
  have refused {changed : Option Engine} (posts : ∀ later, changed = some later → Posts engine later) :
      Posts engine (engine.orRefuse changed).1 := by
    cases changed with
    | none => exact .refl engine
    | some later => exact posts later rfl
  cases operation with
  | present options => exact present_posts engine options
  | update id options => exact refused fun _ => revise?_posts
  | dismiss id => exact refused fun _ => dismiss?_posts
  | clear position =>
      simp only [perform]
      split
      next store cleared =>
          obtain ⟨rfl, _⟩ := Store.removeWhere?_some cleared
          exact publish_posts engine _ (by simp [Frame.tells]) (by simp [Frame.call?])
      next => exact .silent [_] (by simp [Frame.tells]) (by simp) .same rfl
  | markVisible id =>
      apply refused
      intro later painted
      obtain ⟨store, updated, rfl⟩ := Option.map_eq_some_iff.mp painted
      obtain ⟨_, _, _, _, rfl⟩ := Store.update?_some updated
      exact publish_posts engine _ (by simp) (by simp)
  | setDefaultPosition position => exact apart _ rfl rfl
  | setDefaultOptions options => exact apart _ rfl rfl
  | pause => exact apart _ rfl rfl
  | resume => exact .silent [_] (by simp [Frame.tells]) (by simp) .same rfl
  | promise options =>
      exact (present_posts { engine with numbers := engine.numbers + 1 } _).beside rfl rfl rfl rfl
  | settle number outcome => exact settle_posts engine number outcome
  | subscribe hook => exact .silent [] (by simp) (by simp) (.subscribes hook) rfl
  | unsubscribe number => exact .silent [] (by simp) (by simp) (.unsubscribes number) rfl
  | click id =>
      simp only [perform]
      split
      next action _ => exact .silent [_] (by simp [Frame.tells]) (by simp) .same rfl
      next => exact .refl engine
  | write change => exact write_posts engine change
  | place element bounds => exact apart _ rfl rfl
  | errand delay ticket => exact apart _ rfl rfl

theorem act_posts (engine : Engine) (deed : Deed) : Posts engine (engine.act deed) := by
  cases deed with
  | expire id generation =>
      simp only [act]
      split
      next countdowns countdown expired =>
          cases dismissed : dismiss? { engine with countdowns } id .countdown with
          | none => exact (Posts.refl engine).beside rfl rfl rfl rfl
          | some later => exact (dismiss?_posts dismissed).beside rfl rfl rfl rfl
      next => exact .refl engine
  | remove id edition =>
      simp only [act]
      split
      next store removed =>
          obtain ⟨rfl, _⟩ := Store.removeWhere?_some removed
          exact publish_posts engine _ (by simp) (by simp)
      next => exact .refl engine
  | errand ticket => exact .silent [_] (by simp [Frame.tells]) (by simp) .same rfl

inductive Tells (engine after : Engine) : Prop where
  | silent (store : engine.store.Enrols after.store)
      (publications : after.publications = engine.publications)
      (unheard : engine.delivery? after = none)
  | posts (toasts : List Toast) (store : after.store = engine.store.swap toasts)
      (publications : after.publications =
        ⟨after.store.version, toasts, engine.store.listeners⟩ :: engine.publications)
      (unheard : engine.delivery? after = none)
  /-- Everybody has had a snapshot, or it is out of date. -/
  | served (first : Publication) (store : after.store = engine.store)
      (publications : engine.publications = first :: after.publications)
      (done : first.pending = [] ∨ engine.store.version ≠ first.version)
      (unheard : engine.delivery? after = none)
  | delivers (first : Publication) (listener : Listener) (pending : List Listener)
      (rest : List Publication) (store : after.store = engine.store)
      (before : engine.publications = first :: rest) (next : first.pending = listener :: pending)
      (publications : after.publications = { first with pending } :: rest)
      (current : engine.store.version = first.version)
      (heard : engine.delivery? after = some ⟨listener.id, first.version, first.snapshot⟩)

theorem publication?_of_mute {frame : Frame} (mute : frame.tells = false) :
    frame.publication? = none := by
  cases frame <;> first | rfl | cases mute

theorem publications_skip (above below : List Frame)
    (none : ∀ frame ∈ above, frame.publication? = none) :
    (above ++ below).filterMap Frame.publication? = below.filterMap Frame.publication? := by
  rw [List.filterMap_append, List.filterMap_eq_nil_iff.mpr none, List.nil_append]

theorem delivered?_of_mute {frame : Frame} {call : Call} (mute : frame.tells = false)
    (found : frame.call? = some call) : call.delivered? = none := by
  cases frame with
  | caller other =>
      obtain rfl := Option.some.inj found
      cases other <;> first | rfl | cases mute
  | _ => cases found

theorem unheard_of_silent (silent : engine.begun? after = none) : engine.delivery? after = none := by
  simp [delivery?, silent]

theorem delivery?_deliver {version : Nat} {snapshot : List Toast} {listener : Listener}
    {pending : List Listener} {rest : List Frame}
    (top : engine.frames = .publish version snapshot (listener :: pending) :: rest)
    (frames : after.frames =
      .caller (.deliver listener snapshot) :: .publish version snapshot pending :: rest) :
    engine.delivery? after = some ⟨listener.id, version, snapshot⟩ := by
  have begun : engine.begun? after = some (.deliver listener snapshot) :=
    begun?_of_frames [_] [_, _] rest top frames (by simp) (by simp)
  rw [delivery?, begun, publications, frames]
  rfl

theorem unheard_of_mute (popped pushed below : List Frame) (before : engine.frames = popped ++ below)
    (frames : after.frames = pushed ++ below) (mute : ∀ frame ∈ pushed, frame.tells = false)
    (single : popped.length ≤ 1) (moved : popped ++ pushed = [] → below = []) :
    engine.delivery? after = none := by
  have other : (engine.begun? after).bind Call.delivered? = none := by
    rw [begun?_of_frames popped pushed below before frames single moved, Option.bind_eq_none_iff]
    intro call begun
    obtain ⟨frame, first, found⟩ := Option.bind_eq_some_iff.mp begun
    exact delivered?_of_mute (mute frame (List.mem_of_mem_head? first)) found
  rw [delivery?, other]
  rfl

theorem silent_tells (popped pushed below : List Frame) (before : engine.frames = popped ++ below)
    (frames : after.frames = pushed ++ below)
    (unannounced : ∀ frame ∈ popped, frame.publication? = none)
    (mute : ∀ frame ∈ pushed, frame.tells = false) (store : engine.store.Enrols after.store)
    (single : popped.length ≤ 1) (moved : popped ++ pushed = [] → below = []) :
    Tells engine after := by
  apply Tells.silent store
  · rw [publications, publications, before, frames, publications_skip _ _ unannounced]
    exact publications_skip _ _ fun frame member => publication?_of_mute (mute frame member)
  · exact unheard_of_mute popped pushed below before frames mute single moved

theorem Posts.tells {before : Engine} (posts : Posts before after) (popped pushed below : List Frame)
    (store : before.store = engine.store) (top : engine.frames = popped ++ below)
    (frames : before.frames = pushed ++ below)
    (unannounced : ∀ frame ∈ popped, frame.publication? = none)
    (mute : ∀ frame ∈ pushed, frame.tells = false) (single : popped.length ≤ 1)
    (moved : popped ++ pushed = [] → below = []) : Tells engine after := by
  have both (more : List Frame) (silent : ∀ frame ∈ more, frame.tells = false) :
      ∀ frame ∈ more ++ pushed, frame.tells = false := by
    intro frame member
    rcases List.mem_append.mp member with new | old
    · exact silent frame new
    · exact mute frame old
  cases posts with
  | silent more silent calm enrols grown =>
      refine silent_tells popped (more ++ pushed) below top ?_ unannounced (both more silent)
        (store ▸ enrols) single fun nothing => moved ?_
      · rw [grown, frames, List.append_assoc]
      · simp only [List.append_eq_nil_iff] at nothing ⊢
        exact ⟨nothing.1, nothing.2.2⟩
  | posts toasts more silent calm swaps grown =>
      rw [frames, ← List.append_assoc] at grown
      have hidden := fun frame member => publication?_of_mute (both more silent frame member)
      refine .posts toasts (store ▸ swaps) ?_ ?_
      · rw [publications, grown, publications, top, publications_skip _ _ unannounced,
          List.filterMap_cons, publications_skip _ _ hidden]
        simp [announcement, Frame.publication?, swaps, Store.swap, store]
      · exact unheard_of_silent (begun?_of_head (by rw [grown]; rfl))

theorem callback_mute (hook : Option Hook) (call : Hook → Call) (last : Frame)
    (silent : ∀ hook, (Frame.caller (call hook)).tells = false) (mute : last.tells = false) :
    ∀ frame ∈ callback hook call ++ [last], frame.tells = false := by
  cases hook with
  | none => simp [callback, mute]
  | some hook => simp [callback, silent, mute]

theorem proceed_tells (engine : Engine) (frame : Frame) (rest : List Frame)
    (top : engine.frames = frame :: rest) (work : frame.isWork = true) :
    Tells engine engine.step := by
  -- Most frames go, leave silent ones behind, and do not touch the store.
  have plain (later : Engine) (pushed : List Frame) (unannounced : frame.publication? = none)
      (frames : later.frames = pushed ++ rest) (mute : ∀ frame ∈ pushed, frame.tells = false)
      (store : later.store = engine.store) : Tells engine later :=
    silent_tells [frame] pushed rest top frames (by simpa using unannounced) mute
      (by rw [store]; exact .same) (by simp) (by simp)
  cases frame with
  | caller call => simp [Frame.isWork] at work
  | returned answer => simp [Frame.isWork] at work
  | publish version snapshot pending =>
      have first : engine.publications = ⟨version, snapshot, pending⟩ ::
          rest.filterMap Frame.publication? := by
        simp [publications, top, Frame.publication?]
      -- An announcement that is over goes, and what lies below it stays.
      have ends (done : pending = [] ∨ engine.store.version ≠ version)
          (same : engine.step = { engine with frames := rest }) : Tells engine engine.step := by
        rw [same]
        exact .served ⟨version, snapshot, pending⟩ rfl first done
          (unheard_of_mute [_] [] rest top rfl (by simp) (by simp) (by simp))
      cases pending with
      | nil => exact ends (.inl rfl) (by simp [step, top, Engine.work])
      | cons listener pending =>
          by_cases current : engine.store.version = version
          · have same : engine.step = { engine with
                frames := .caller (.deliver listener snapshot) ::
                  .publish version snapshot pending :: rest } := by
              simp [step, top, Engine.work, current, push]
            rw [same]
            refine .delivers ⟨version, snapshot, listener :: pending⟩ listener pending _ rfl first rfl
              ?_ current ?_
            · simp [publications, Frame.publication?, List.filterMap_cons]
            · exact delivery?_deliver top rfl
          · exact ends (.inr current) (by simp [step, top, Engine.work, current])
  | arm id lifespan =>
      obtain ⟨countdowns, agenda, shape⟩ := arm_shape { engine with frames := rest } id lifespan
      have same : engine.step = { engine with frames := rest, countdowns, agenda } := by
        simp [step, top, Engine.work, shape]
      exact plain _ [] rfl (by rw [same]; rfl) (by simp) (by rw [same])
  | leave toast cause =>
      cases cause with
      | user =>
          exact plain _ [.farewell toast] rfl (by simp [step, top, Engine.work, push])
            (by simp [Frame.tells]) (by simp [step, top, Engine.work, push])
      | countdown =>
          refine plain _ (callback toast.onAutoClose (.autoClosed · toast) ++ [.farewell toast]) rfl
            (by simp [step, top, Engine.work, push]) ?_ (by simp [step, top, Engine.work, push])
          exact callback_mute _ _ _ (fun _ => rfl) rfl
  | farewell toast =>
      refine plain _ (callback toast.onDismiss (.dismissed · toast) ++ [.exitWindow toast]) rfl
        (by simp [step, top, Engine.work, push]) ?_ (by simp [step, top, Engine.work, push])
      exact callback_mute _ _ _ (fun _ => rfl) rfl
  | exitWindow toast =>
      exact plain _ [] rfl (by simp [step, top, Engine.work]) (by simp)
        (by simp [step, top, Engine.work])
  | disarm ids =>
      obtain ⟨countdowns, shape⟩ := disarm_shape { engine with frames := rest } ids
      have same : engine.step = { engine with frames := rest, countdowns } := by
        simp [step, top, Engine.work, shape]
      exact plain _ [] rfl (by rw [same]; rfl) (by simp) (by rw [same])
  | due ids =>
      cases ids with
      | nil =>
          exact plain _ [] rfl (by simp [step, top, Engine.work]) (by simp)
            (by simp [step, top, Engine.work])
      | cons id ids =>
          have shape : engine.step = (({ engine with frames := .due ids :: rest }.dismiss? id
              .countdown).getD { engine with frames := .due ids :: rest }) := by
            simp [step, top, Engine.work, push]
          rw [shape]
          cases dismissed : dismiss? { engine with frames := .due ids :: rest } id .countdown with
          | none => exact plain _ [.due ids] rfl rfl (by simp [Frame.tells]) rfl
          | some later =>
              exact (dismiss?_posts dismissed).tells [_] [_] rest rfl top rfl
                (by simp [Frame.publication?]) (by simp [Frame.tells]) (by simp) (by simp)

theorem request_posts (engine : Engine) (operation : Operation) : ∃ answer,
    Posts { engine with frames := .returned answer :: engine.frames } (engine.request operation) := by
  have whole := perform_posts { engine with frames := [] } operation
  simp only [Engine.request]
  generalize { engine with frames := [] }.perform operation = performed at whole
  obtain ⟨later, answer⟩ := performed
  dsimp only at whole ⊢
  refine ⟨answer, ?_⟩
  cases whole with
  | silent pushed mute calm enrols frames =>
      exact .silent pushed mute calm enrols (by simp [frames])
  | posts toasts rest mute calm swaps frames =>
      exact .posts toasts rest mute calm swaps (by simp [frames, announcement])

theorem pollAt?_posts {place : Nat} (taken : engine.pollAt? place = some after) :
    ∃ agenda, Posts { engine with agenda } after := by
  simp only [pollAt?, poll?] at taken
  split at taken
  next => cases taken
  next agenda next =>
      obtain rfl := Option.some.inj taken
      exact ⟨agenda, .refl _⟩
  next agenda deed next =>
      obtain rfl := Option.some.inj taken
      exact ⟨agenda, act_posts _ deed⟩

theorem Stride.tells (stride : Stride engine event after) : Tells engine after := by
  cases stride with
  | request operation turn =>
      obtain ⟨answer, posts⟩ := request_posts engine operation
      exact posts.tells [] [_] engine.frames rfl rfl rfl (by simp) (by simp [Frame.tells]) (by simp)
        (by simp)
  | proceed frame rest top work => exact proceed_tells engine frame rest top work
  | handBack frame rest top idle =>
      have unannounced : frame.publication? = none := by
        cases frame <;> first | rfl | cases idle
      rw [resumeTurn_pops top idle]
      exact silent_tells [frame] [] rest top rfl (by simpa using unannounced) (by simp) .same
        (by simp) (by simp)
  | poll place after idle taken =>
      obtain ⟨agenda, posts⟩ := pollAt?_posts taken
      exact posts.tells [] [] [] rfl idle idle (by simp) (by simp) (by simp) (by simp)
  | pass moment idle later =>
      exact silent_tells [] [] [] idle idle (by simp) (by simp) .same (by simp) (by simp)

end Engine

end Toasts

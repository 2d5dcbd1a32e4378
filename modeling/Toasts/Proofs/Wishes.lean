import Toasts.Proofs.Countdowns
import Toasts.Proofs.Records

/-!
Countdowns and records in step. An operation changes a record at once, but its say on the countdown
is a frame that is worked off after the listeners have been told, and they may start operations on
the same toast meanwhile. So what the records call for is the wish of the operation that was begun
last, and what the countdowns are is the wish of the one that was finished last.
-/

namespace Toasts

/-- The countdown a record calls for: a live one with a finite lifespan calls for all of it. -/
def Toast.call (toast : Toast) : Option Span :=
  if toast.isLive then toast.lifespan.countdown else none

def Frame.asks? (id : ToastId) : Frame → Option (Option Span)
  | .arm other lifespan => if other = id then some lifespan.countdown else none
  | .leave toast _ => if toast.id = id then some none else none
  | .disarm none => some none
  | .disarm (some ids) => if id ∈ ids then some none else none
  | _ => none

theorem Frame.asks?_of_isOutside {frame : Frame} (outside : frame.isOutside = true)
    (id : ToastId) : frame.asks? id = none := by
  cases frame <;> first | rfl | simp [Frame.isOutside] at outside

theorem Lifespan.isZero_of_countdown {lifespan : Lifespan} {delay : Span}
    (some : lifespan.countdown = some delay) : delay.isZero = false := by
  cases lifespan with
  | persistent => cases some
  | finite span =>
      simp only [countdown] at some
      split at some
      next => cases some
      next lasting => cases some; simpa using lasting

namespace Engine

def called (engine : Engine) (id : ToastId) : Option Span := (engine.get? id).bind Toast.call

def wishes (id : ToastId) (frames : List Frame) : List (Option Span) :=
  frames.filterMap (Frame.asks? id)

/-- The wish, for the countdown of a toast, of the operation that a stride begins: it is among the
frames by which the stack has grown. -/
def begins? (engine after : Engine) (id : ToastId) : Option (Option Span) :=
  (wishes id (after.frames.take (after.frames.length - engine.frames.length))).head?

def finishes? (engine : Engine) (event : Event) (id : ToastId) : Option (Option Span) :=
  match event with
  | .proceed => engine.frames.head?.bind (Frame.asks? id)
  | _ => none

@[simp] theorem wishes_nil (id : ToastId) : wishes id [] = [] := rfl

@[simp] theorem wishes_cons (id : ToastId) (frame : Frame) (rest : List Frame) :
    wishes id (frame :: rest) = (frame.asks? id).toList ++ wishes id rest := by
  cases wish : frame.asks? id <;> simp [wishes, wish]

@[simp] theorem wishes_append (id : ToastId) (above below : List Frame) :
    wishes id (above ++ below) = wishes id above ++ wishes id below :=
  List.filterMap_append

theorem finishes?_proceed {engine : Engine} {frame : Frame} {rest : List Frame}
    (top : engine.frames = frame :: rest) (id : ToastId) :
    engine.finishes? .proceed id = frame.asks? id := by
  simp [finishes?, top]

namespace Run

variable {start finish : Engine}

def begun (id : ToastId) {finish : Engine} : Run start finish → Option Span
  | .start => none
  | @Run.next _ engine after run _ _ => (engine.begins? after id).getD (run.begun id)

/-- The wish of the operation on a toast that was finished last, or none once the countdown has
ended by itself. -/
def finished (id : ToastId) {finish : Engine} : Run start finish → Option Span
  | .start => none
  | @Run.next _ engine after run event _ =>
      match engine.finishes? event id with
      | some wish => wish
      | none =>
          if engine.countdowns.has id && !after.countdowns.has id then none else run.finished id

def armedWith (id : ToastId) {finish : Engine} : Run start finish → Option Span
  | .start => none
  | @Run.next _ engine _ run event _ =>
      match engine.finishes? event id with
      | some (some delay) => some delay
      | _ => run.armedWith id

end Run

def SameEdition (engine after : Engine) (id : ToastId) : Prop :=
  (after.get? id).map (·.edition) = (engine.get? id).map (·.edition)

/-- An operation puts at most one wish for a toast on the stack, and that is for what the record
then calls for; without one the record stays as it is in this regard. A countdown is wished for only
with a new edition. -/
def Heeds (engine after : Engine) (id : ToastId) : Prop :=
  ∃ (pushed : List Frame) (wish : Option (Option Span)), after.frames = pushed ++ engine.frames ∧
    wishes id pushed = wish.toList ∧ after.called id = wish.getD (engine.called id) ∧
    (wish = none → SameEdition engine after id) ∧
    ∀ delay, wish = some (some delay) → ¬ SameEdition engine after id

theorem called_replaced {engine after : Engine} {toast revised : Toast}
    (found : engine.get? toast.id = some toast) (same : revised.id = toast.id)
    (toasts : after.store.toasts = Store.replaceFirst toast.id revised engine.store.toasts)
    (id : ToastId) :
    after.called id = if toast.id = id then revised.call else engine.called id := by
  rw [called, get?_replaced found same toasts id]
  split <;> rfl

theorem Leaves.heeds {engine after : Engine} {toast : Toast} {cause : Cause}
    (leaves : Leaves engine after toast cause) (id : ToastId) : Heeds engine after id := by
  have same : toast.leave.id = toast.id := rfl
  have frames : after.frames = [after.announcement, .leave toast cause] ++ engine.frames :=
    leaves.publishes.frames
  have wish := called_replaced leaves.found same leaves.publishes.toasts id
  have look := get?_replaced leaves.found same leaves.publishes.toasts id
  by_cases hit : toast.id = id
  · refine ⟨_, some none, frames, ?_, ?_, by simp, by simp⟩
    · simp [announcement, Frame.asks?, hit]
    · rw [wish, if_pos hit]
      rfl
  · rw [if_neg hit] at wish look
    refine ⟨_, none, frames, ?_, wish, fun _ => by rw [SameEdition, look], by simp⟩
    simp [announcement, Frame.asks?, hit]

theorem heeds_arm {engine after : Engine} {toast : Toast} (live : toast.exiting = false)
    (frames : after.frames = [after.announcement, .arm toast.id toast.lifespan] ++ engine.frames)
    (new : ∀ old, engine.get? toast.id = some old → old.edition < toast.edition) (id : ToastId)
    (look : after.get? id = if toast.id = id then some toast else engine.get? id) :
    Heeds engine after id := by
  by_cases hit : toast.id = id
  · rw [if_pos hit] at look
    refine ⟨_, some toast.lifespan.countdown, frames, ?_, ?_, by simp, fun _ _ same => ?_⟩
    · simp [announcement, Frame.asks?, hit]
    · simp [called, look, Toast.call, Toast.isLive, live]
    · rw [SameEdition, look] at same
      obtain ⟨old, found, twin⟩ := Option.map_eq_some_iff.mp same.symm
      exact absurd twin (Nat.ne_of_lt (new old (hit ▸ found)))
  · rw [if_neg hit] at look
    refine ⟨_, none, frames, ?_, ?_, fun _ => by rw [SameEdition, look], by simp⟩
    · simp [announcement, Frame.asks?, hit]
    · simp [called, look]

theorem Shows.heeds {engine after : Engine} (shows : Shows engine after)
    (orderly : Orderly engine) (id : ToastId) : Heeds engine after id := by
  cases shows with
  | revise toast revised options number found live made new publishes =>
      have same : revised.id = toast.id := by rw [made]; rfl
      have live : revised.exiting = false := by rw [made]; rfl
      have look := get?_replaced found same publishes.toasts id
      refine heeds_arm live (by rw [same]; exact publishes.frames) ?_ id (by rw [same]; exact look)
      intro old present
      have bound := orderly.numbered old (Store.mem_of_get? present)
      rw [made]
      exact Nat.lt_of_le_of_lt bound new.1
  | append toast options number made new publishes =>
      have live : toast.exiting = false := by rw [made]; rfl
      refine heeds_arm live publishes.frames ?_ id (get?_put publishes.toasts id)
      intro old present
      have bound := orderly.numbered old (Store.mem_of_get? present)
      rw [made]
      exact Nat.lt_of_le_of_lt bound new.1

theorem mem_cleared {engine : Engine} (orderly : Orderly engine) {position : Option Position}
    {id : ToastId} : id ∈ engine.store.cleared position ↔
      ∃ toast, engine.get? id = some toast ∧ Store.clears position toast = true := by
  simp only [Store.cleared, List.mem_map, List.mem_filter]
  constructor
  · rintro ⟨toast, ⟨member, taken⟩, rfl⟩
    exact ⟨toast, orderly.get?_of_mem member, taken⟩
  · rintro ⟨toast, present, taken⟩
    exact ⟨toast, ⟨Store.mem_of_get? present, taken⟩, Store.id_of_get? present⟩

theorem get?_cleared {engine after : Engine} (orderly : Orderly engine) (position : Option Position)
    (toasts : after.store.toasts = engine.store.toasts.filter (!Store.clears position ·))
    (id : ToastId) :
    after.get? id = if id ∈ engine.store.cleared position then none else engine.get? id := by
  have listed : id ∈ engine.store.cleared position ↔ _ := mem_cleared orderly
  rw [orderly.get?_filter toasts id]
  by_cases member : id ∈ engine.store.cleared position
  · obtain ⟨toast, present, taken⟩ := listed.mp member
    simp [member, present, Option.filter, taken]
  · rw [if_neg member]
    cases present : engine.get? id with
    | none => rfl
    | some toast =>
        have spared : Store.clears position toast = false := by
          by_contra taken
          exact member (listed.mpr ⟨toast, present, by simpa using taken⟩)
        simp [Option.filter, spared]

theorem called_congr {engine after : Engine} (toasts : after.store.toasts = engine.store.toasts)
    (id : ToastId) : after.called id = engine.called id := by
  rw [called, get?_congr toasts]
  rfl

theorem called_of_absent {engine : Engine} {id : ToastId} (absent : engine.get? id = none) :
    engine.called id = none := by
  rw [called, absent]
  rfl

theorem heeds_disarm {engine after : Engine} {pushed : List Frame} {id : ToastId}
    (ids : Option (List ToastId)) (frames : after.frames = (pushed ++ [.disarm ids]) ++ engine.frames)
    (silent : wishes id pushed = [])
    (look : after.get? id =
      if ids.all (fun ids => decide (id ∈ ids)) then none else engine.get? id) :
    Heeds engine after id := by
  by_cases hit : ids.all (fun ids => decide (id ∈ ids)) = true
  · rw [if_pos hit] at look
    refine ⟨_, some none, frames, ?_, called_of_absent look, by simp, by simp⟩
    cases ids with
    | none => simp [silent, Frame.asks?]
    | some ids => simpa [silent, Frame.asks?] using hit
  · rw [if_neg hit] at look
    refine ⟨_, none, frames, ?_, ?_, fun _ => by rw [SameEdition, look], by simp⟩
    · cases ids with
      | none => exact absurd rfl hit
      | some ids => simpa [silent, Frame.asks?] using hit
    · rw [called, look]
      rfl

theorem Effect.heeds {engine after : Engine} (effect : Effect engine after)
    (orderly : Orderly engine) (id : ToastId) : Heeds engine after id := by
  have unchanged {pushed : List Frame} (frames : after.frames = pushed ++ engine.frames)
      (silent : wishes id pushed = []) (toasts : after.store.toasts = engine.store.toasts) :
      Heeds engine after id :=
    ⟨pushed, none, frames, silent, called_congr toasts id,
      fun _ => by rw [SameEdition, get?_congr toasts], by simp⟩
  cases effect with
  | calm pushed outside steady toasts version countdowns agenda frames =>
      refine unchanged frames ?_ toasts
      exact List.filterMap_eq_nil_iff.mpr fun frame member =>
        Frame.asks?_of_isOutside (outside frame member) id
  | shows shows => exact shows.heeds orderly id
  | leaves toast leaves => exact leaves.heeds id
  | clears position publishes =>
      have frames : after.frames = ([after.announcement] ++
          [.disarm (position.map fun _ => engine.store.cleared position)]) ++ engine.frames :=
        publishes.frames
      have look := get?_cleared orderly position publishes.toasts id
      refine heeds_disarm _ frames rfl ?_
      cases position with
      | none =>
          rw [Option.map_none, Option.all_none, if_pos rfl]
          by_cases member : id ∈ engine.store.cleared none
          · rw [look, if_pos member]
          · rw [look, if_neg member, Option.eq_none_iff_forall_ne_some]
            exact fun toast present => member ((mem_cleared orderly).mpr ⟨toast, present, rfl⟩)
      | some corner => simpa using look
  | spares position spared same =>
      subst same
      refine heeds_disarm _ (rfl : _ = ([] ++ [_]) ++ _) rfl ?_
      have look : (engine.push [.disarm (position.map fun _ => [])]).get? id = engine.get? id :=
        get?_congr rfl id
      rw [look]
      cases position with
      | none =>
          apply Option.eq_none_iff_forall_ne_some.mpr
          intro toast present
          cases spared toast (Store.mem_of_get? present)
      | some corner => simp
  | paints toast painted found made publishes =>
      obtain ⟨lifecycle, _, rfl⟩ := Option.map_eq_some_iff.mp made
      have look := @get?_replaced engine after toast { toast with lifecycle } found rfl
        publishes.toasts id
      have calls := @called_replaced engine after toast { toast with lifecycle } found rfl
        publishes.toasts id
      by_cases same : toast.id = id
      · subst same
        rw [if_pos rfl] at look calls
        refine ⟨[after.announcement], none, publishes.frames, rfl, ?_, fun _ => ?_, by simp⟩
        · rw [calls, Option.getD_none, called, found]
          rfl
        · rw [SameEdition, look, found]
          rfl
      · rw [if_neg same] at look calls
        exact ⟨[after.announcement], none, publishes.frames, rfl, calls,
          fun _ => by rw [SameEdition, look], by simp⟩
  | pauses same =>
      subst same
      exact unchanged (rfl : _ = [] ++ _) rfl rfl
  | resumes same =>
      subst same
      exact unchanged (rfl : _ = [_] ++ _) rfl rfl

theorem begins?_pushed {engine after : Engine} {pushed below : List Frame} (id : ToastId)
    (frames : after.frames = pushed ++ below) (level : below.length = engine.frames.length) :
    engine.begins? after id = (wishes id pushed).head? := by
  have all : after.frames.length - engine.frames.length = pushed.length := by
    rw [frames, List.length_append, level]
    omega
  rw [begins?, all, frames, List.take_left]

theorem begins?_none {engine after : Engine} {pushed below : List Frame} (id : ToastId)
    (frames : after.frames = pushed ++ below) (lower : below.length ≤ engine.frames.length)
    (silent : wishes id pushed = []) : engine.begins? after id = none := by
  have few : after.frames.length - engine.frames.length ≤ pushed.length := by
    rw [frames, List.length_append]
    omega
  rw [begins?, List.head?_eq_none_iff, wishes, List.filterMap_eq_nil_iff]
  intro frame member
  have among : frame ∈ pushed.take (after.frames.length - engine.frames.length) := by
    rw [← List.take_append_of_le_length few, ← frames]
    exact member
  exact List.filterMap_eq_nil_iff.mp silent frame (List.mem_of_mem_take among)

theorem callback_wishes (hook : Option Hook) (call : Hook → Call) (id : ToastId) :
    wishes id (callback hook call) = [] := by
  cases hook <;> rfl

/-- What a stride does with wishes: the record goes on calling for the same or for what is wished,
and a wish stays on the stack from its beginning until it is worked off. -/
structure Heard (engine : Engine) (event : Event) (after : Engine) (id : ToastId) : Prop where
  called : after.called id = (engine.begins? after id).getD (engine.called id)
  pending : (engine.finishes? event id).toList ++ wishes id after.frames =
    (engine.begins? after id).toList ++ wishes id engine.frames
  same : engine.begins? after id = none → SameEdition engine after id ∨ engine.called id = none
  new : ∀ delay, engine.begins? after id = some (some delay) → ¬ SameEdition engine after id
  origin : (engine.begins? after id).isSome = true → event.isRequest = true ∨
    engine.frames.head?.any Frame.isDue = true ∨ engine.frames = []

theorem Heeds.heard {engine before after : Engine} {event : Event} {id : ToastId}
    (heeds : Heeds before after id) (level : before.frames.length = engine.frames.length)
    (same : wishes id before.frames = wishes id engine.frames)
    (toasts : before.store.toasts = engine.store.toasts)
    (unfinished : engine.finishes? event id = none)
    (origin : event.isRequest = true ∨ engine.frames.head?.any Frame.isDue = true ∨
      engine.frames = []) : Heard engine event after id := by
  obtain ⟨pushed, wish, frames, single, calls, kept, new⟩ := heeds
  have begun : engine.begins? after id = wish := by
    rw [begins?_pushed id frames level, single, Option.head?_toList]
  have edition : SameEdition before after id ↔ SameEdition engine after id := by
    rw [SameEdition, SameEdition, get?_congr toasts]
  rw [edition] at kept
  constructor
  · rw [begun, calls, called_congr toasts]
  · rw [begun, unfinished, frames, ← same, ← single]
    simp
  · exact fun silent => .inl (kept (begun ▸ silent))
  · exact fun delay wished => edition.not.mp (new delay (begun ▸ wished))
  · exact fun _ => origin

/-- A stride that begins nothing takes frames off and puts others on that wish for nothing. -/
theorem heard_silent {engine after : Engine} {event : Event} {id : ToastId}
    (popped pushed below : List Frame) (before : engine.frames = popped ++ below)
    (frames : after.frames = pushed ++ below) (silent : wishes id pushed = [])
    (fulfilled : wishes id popped = (engine.finishes? event id).toList)
    (calls : after.called id = engine.called id)
    (same : SameEdition engine after id ∨ engine.called id = none) :
    Heard engine event after id := by
  have begun : engine.begins? after id = none :=
    begins?_none id frames (by simp [before]) silent
  constructor
  · rw [begun, calls]
    rfl
  · rw [begun, before, frames, ← fulfilled]
    simp [silent]
  · exact fun _ => same
  · rw [begun]
    simp
  · rw [begun]
    simp

theorem Move.heard {engine after : Engine} {event : Event} (move : Move engine event after)
    (orderly : Orderly engine) (id : ToastId) : Heard engine event after id := by
  cases move with
  | request operation after answer turn effect =>
      obtain ⟨pushed, wish, frames, single, rest⟩ := effect.heeds (orderly.answering answer) id
      have heeds : Heeds engine after id :=
        ⟨pushed ++ [.returned answer], wish, by simpa using frames,
          by simpa [Frame.asks?] using single, rest⟩
      exact heeds.heard rfl rfl rfl rfl (.inl rfl)
  | published version snapshot pending rest top served =>
      exact heard_silent [_] [] rest top rfl rfl (by simp [finishes?, top]) rfl (.inl rfl)
  | deliver version snapshot listener pending rest top current =>
      exact heard_silent [_] [_, _] rest top rfl rfl (by simp [finishes?, top]) rfl (.inl rfl)
  | arm armed lifespan rest top =>
      obtain ⟨countdowns, agenda, shape⟩ := arm_shape { engine with frames := rest } armed lifespan
      rw [shape]
      exact heard_silent [_] [] rest top rfl rfl (by simp [finishes?, top]) rfl (.inl rfl)
  | leave toast cause rest top =>
      refine heard_silent [_] (_ ++ [_]) rest top (List.append_assoc _ [_] rest).symm ?_ ?_ rfl (.inl rfl)
      · cases cause <;> simp [callback_wishes, Frame.asks?]
      · simp [finishes?, top]
  | farewell toast rest top =>
      refine heard_silent [_] (_ ++ [_]) rest top (List.append_assoc _ [_] rest).symm ?_ ?_ rfl (.inl rfl)
      · simp [callback_wishes, Frame.asks?]
      · simp [finishes?, top]
  | exitWindow toast rest top =>
      exact heard_silent [_] [] rest top rfl rfl (by simp [finishes?, top]) rfl (.inl rfl)
  | disarm ids rest top =>
      obtain ⟨countdowns, shape⟩ := disarm_shape { engine with frames := rest } ids
      rw [shape]
      exact heard_silent [_] [] rest top rfl rfl (by simp [finishes?, top]) rfl (.inl rfl)
  | dueDone rest top =>
      exact heard_silent [_] [] rest top rfl rfl (by simp [finishes?, top]) rfl (.inl rfl)
  | dueGone other ids rest top gone =>
      exact heard_silent [_] [_] rest top rfl rfl (by simp [finishes?, top]) rfl (.inl rfl)
  | due toast ids rest after top leaves =>
      refine (leaves.heeds id).heard ?_ ?_ rfl ?_ (.inr (.inl (by simp [top, Frame.isDue])))
      · simp [top]
      · simp [top, Frame.asks?]
      · simp [finishes?, top, Frame.asks?]
  | handBack frame rest top idle =>
      refine heard_silent [_] [] rest top rfl rfl ?_ rfl (.inl rfl)
      cases frame <;> first | rfl | cases idle
  | waits place agenda idle taken => exact heard_silent [] [] _ rfl rfl rfl rfl rfl (.inl rfl)
  | stale place agenda deed idle taken gone => exact heard_silent [] [] _ rfl rfl rfl rfl rfl (.inl rfl)
  | expireGone place agenda other generation countdowns countdown idle taken expired gone =>
      exact heard_silent [] [] _ rfl rfl rfl rfl rfl (.inl rfl)
  | expire place agenda toast generation countdowns countdown after idle taken expired leaves =>
      exact (leaves.heeds id).heard rfl rfl rfl rfl (.inr (.inr idle))
  | remove place agenda removed edition after idle taken publishes =>
      have frames : after.frames = [after.announcement] ++ engine.frames := by
        rw [publishes.frames, idle]
        rfl
      have look := orderly.get?_filter publishes.toasts id
      -- A record whose exit window is over called for nothing any more.
      have either : after.get? id = engine.get? id ∨
          (after.called id = none ∧ engine.called id = none) := by
        rw [called, called, look]
        cases present : engine.get? id with
        | none => exact .inl rfl
        | some toast =>
            by_cases doomed : toast.id = removed ∧ toast.edition = edition
            · have work : (removed, edition) ∈ engine.exits := by
                have listed := (taken.works.filterMap Deed.removal?).symm.subset
                exact List.mem_append_right _ (listed (by simp [Deed.removal?]))
              have gone := (orderly.spent _ work).2 toast (Store.mem_of_get? present) doomed.2
              simp [Option.filter, doomed, Toast.call, Toast.isLive, gone]
            · have spared : (decide (toast.id = removed) && toast.edition == edition) = false := by
                simpa using doomed
              simp [Option.filter, spared]
      rcases either with same | ⟨gone, uncalled⟩
      · exact heard_silent [] [_] _ rfl frames rfl rfl (by rw [called, called, same])
          (.inl (by rw [SameEdition, same]))
      · exact heard_silent [] [_] _ rfl frames rfl rfl (gone.trans uncalled.symm) (.inr uncalled)
  | errand place agenda ticket idle taken =>
      exact heard_silent [] [_] [] idle rfl rfl rfl rfl (.inl rfl)
  | pass moment idle later => exact heard_silent [] [] _ rfl rfl rfl rfl rfl (.inl rfl)

theorem Effect.has {engine after : Engine} (effect : Effect engine after) (id : ToastId)
    (held : after.countdowns.has id = true) : engine.countdowns.has id = true := by
  cases effect with
  | calm pushed outside steady toasts version countdowns agenda frames => rwa [← countdowns]
  | shows shows =>
      cases shows with
      | revise toast revised options number found live made new publishes =>
          rwa [← publishes.countdowns]
      | append toast options number made new publishes => rwa [← publishes.countdowns]
  | leaves toast leaves => rwa [← leaves.publishes.countdowns]
  | clears position publishes => rwa [← publishes.countdowns]
  | spares position spared same =>
      subst same
      exact held
  | paints toast painted found made publishes => rwa [← publishes.countdowns]
  | pauses same =>
      subst same
      exact Countdowns.has_pause engine.countdowns engine.now id ▸ held
  | resumes same =>
      subst same
      exact Countdowns.has_of_has_resume held

theorem arm_has (engine : Engine) (id other : ToastId) (lifespan : Lifespan) :
    (engine.arm other lifespan).countdowns.has id =
      if other = id then lifespan.countdown.isSome else engine.countdowns.has id := by
  cases wish : lifespan.countdown with
  | none =>
      simp only [arm, wish, Countdowns.has_cancel]
      by_cases same : other = id <;> simp [same, Ne.symm]
  | some delay =>
      simp only [arm, wish, Countdowns.has_schedule _ _ _ _ _ _ (Lifespan.isZero_of_countdown wish)]
      by_cases same : other = id
      · simp [same]
      · simp [same, Ne.symm same]

theorem disarm_has (engine : Engine) (ids : Option (List ToastId)) (id : ToastId) :
    (engine.disarm ids).countdowns.has id =
      (ids.any (fun ids => decide (id ∉ ids)) && engine.countdowns.has id) := by
  cases ids with
  | none => rfl
  | some ids => exact Countdowns.has_cancel_each ids engine.countdowns id

/-- A countdown comes about only by a wish that is finished, and then it is as wished for. -/
theorem Move.has {engine after : Engine} {event : Event} (move : Move engine event after)
    (id : ToastId) :
    match engine.finishes? event id with
    | some wish => after.countdowns.has id = wish.isSome
    | none => after.countdowns.has id = true → engine.countdowns.has id = true := by
  cases move with
  | request operation after answer turn effect => exact effect.has id
  | published version snapshot pending rest top served => simp [finishes?, top, Frame.asks?]
  | deliver version snapshot listener pending rest top current =>
      simp [finishes?, top, Frame.asks?]
  | arm other lifespan rest top =>
      have held := arm_has { engine with frames := rest } id other lifespan
      by_cases same : other = id
      · simpa [finishes?, top, Frame.asks?, same] using held
      · simp [finishes?, top, Frame.asks?, same, held]
  | leave toast cause rest top =>
      by_cases same : toast.id = id
      · simp [finishes?, top, Frame.asks?, same, Countdowns.has_cancel]
      · simp [finishes?, top, Frame.asks?, same, Countdowns.has_cancel]
  | farewell toast rest top => simp [finishes?, top, Frame.asks?]
  | exitWindow toast rest top => simp [finishes?, top, Frame.asks?]
  | disarm ids rest top =>
      have held := disarm_has { engine with frames := rest } ids id
      cases ids with
      | none => simpa [finishes?, top, Frame.asks?] using held
      | some ids => by_cases member : id ∈ ids <;> simp [finishes?, top, Frame.asks?, member, held]
  | dueDone rest top => simp [finishes?, top, Frame.asks?]
  | dueGone other ids rest top gone => simp [finishes?, top, Frame.asks?]
  | due toast ids rest after top leaves =>
      simp [finishes?, top, Frame.asks?, leaves.publishes.countdowns]
  | handBack frame rest top idle => exact fun held => held
  | waits place agenda idle taken => exact fun held => held
  | stale place agenda deed idle taken gone => exact fun held => held
  | expireGone place agenda other generation countdowns countdown idle taken expired gone =>
      intro held
      obtain ⟨_, _, _, rfl⟩ := Countdowns.expire?_some expired
      simp only [Countdowns.has_cancel, Bool.and_eq_true] at held
      exact held.2
  | expire place agenda toast generation countdowns countdown after idle taken expired leaves =>
      intro held
      obtain ⟨_, _, _, rfl⟩ := Countdowns.expire?_some expired
      simp only [leaves.publishes.countdowns, Countdowns.has_cancel, Bool.and_eq_true] at held
      exact held.2
  | remove place agenda removed edition after idle taken publishes =>
      exact fun held => publishes.countdowns ▸ held
  | errand place agenda ticket idle taken => exact fun held => held
  | pass moment idle later => exact fun held => held

namespace Run

variable {settings : Settings} {defaults : Defaults} {now : Nat} {finish : Engine}

theorem called_begun (run : Run (fresh settings defaults now) finish) (managed : run.Managed)
    (id : ToastId) : finish.called id = run.begun id := by
  induction run with
  | start => rfl
  | next run event stride ih =>
      rw [((stride.move managed.2).heard (run.orderly managed.1) id).called, ih managed.1]
      rfl

theorem armed_finished (run : Run (fresh settings defaults now) finish) (managed : run.Managed)
    (id : ToastId) :
    (finish.countdowns.has id = true ↔ (run.finished id).isSome = true) ∧
      (finish.countdowns.has id = true → run.armedWith id = run.finished id) := by
  -- The delay is of use only while a countdown is held, so both halves go through the run together.
  induction run with
  | start => simp [finished, fresh, Countdowns.has, Countdowns.get?]
  | @next engine after run event stride ih =>
      have move := (stride.move managed.2).has id
      obtain ⟨held, delay⟩ := ih managed.1
      rw [finished, armedWith]
      cases wish : engine.finishes? event id with
      | some asked =>
          rw [wish] at move
          cases asked <;> simp_all
      | none =>
          rw [wish] at move
          cases before : engine.countdowns.has id <;> cases later : after.countdowns.has id <;>
            simp_all

end Run

end Engine

end Toasts

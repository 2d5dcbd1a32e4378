import Toasts.Proofs.Countdowns
import Toasts.Proofs.Records

/-!
Partings. A record that begins its exit owes its callbacks a call each, and the frames under way say
which calls are still owed. A stride either lets one record begin its exit, and puts what is owed for
it on the stack, or makes a call that was owed, or does nothing of the kind.
-/

namespace Toasts

def Call.parted? : Call → Option Nat
  | .autoClosed _ toast => some toast.edition
  | .dismissed _ toast => some toast.edition
  | _ => none

/-- A call to a callback of a toast that goes, and how many frames lie below the dismissal that it is
part of. -/
structure Goodbye where
  call : Call
  depth : Nat

def Goodbye.isOf (edition : Nat) (goodbye : Goodbye) : Bool :=
  goodbye.call.parted? == some edition

def Toast.farewells (toast : Toast) : List Call :=
  toast.onDismiss.toList.map (.dismissed · toast)

def Toast.lastCalls (toast : Toast) (cause : Cause) : List Call :=
  (match cause with
    | .countdown => toast.onAutoClose.toList.map (.autoClosed · toast)
    | .user => []) ++ toast.farewells

structure Dismissal where
  /-- The record as it was just before. -/
  toast : Toast
  cause : Cause
  /-- How many frames are left when the call that made it returns. -/
  depth : Nat

def Dismissal.owed (dismissal : Dismissal) : List Goodbye :=
  (dismissal.toast.lastCalls dismissal.cause).map (⟨·, dismissal.depth⟩)

def Frame.lastCalls : Frame → List Call
  | .leave toast cause => toast.lastCalls cause
  | .farewell toast => toast.farewells
  | _ => []

def Frame.isPlain : Frame → Bool
  | .caller call => call.parted?.isNone
  | .leave _ _ => false
  | .farewell _ => false
  | _ => true

theorem Frame.lastCalls_of_isPlain {frame : Frame} (plain : frame.isPlain = true) :
    frame.lastCalls = [] := by
  cases frame <;> first | rfl | cases plain

theorem Frame.lastCalls_of_idle {frame : Frame} (idle : frame.isWork = false) :
    frame.lastCalls = [] := by
  cases frame <;> first | rfl | cases idle

theorem Frame.isPlain_of_isOutside {frame : Frame} (outside : frame.isOutside = true) :
    frame.isPlain = true := by
  cases frame with
  | caller call => cases call <;> first | rfl | cases outside
  | _ => first | rfl | cases outside

theorem Frame.parted?_of_isPlain {frame : Frame} {call : Call} (plain : frame.isPlain = true)
    (found : frame.call? = some call) : call.parted? = none := by
  cases frame with
  | caller other =>
      obtain rfl := Option.some.inj found
      simpa [Frame.isPlain] using plain
  | _ => cases found

namespace Engine

def owed : List Frame → List Goodbye
  | [] => []
  | frame :: below => frame.lastCalls.map (⟨·, below.length⟩) ++ owed below

def departed (engine after : Engine) : List Toast :=
  engine.store.toasts.filter fun toast =>
    toast.isLive && (after.get? toast.id).any (·.exiting)

/-- Whether a stride is the end of a countdown: the wait for it is over, or nothing of it was left at
a resumption and now its turn has come. -/
def endsCountdown (engine : Engine) (event : Event) (after : Engine) (id : ToastId) : Bool :=
  match event, engine.frames with
  | .poll _, _ => engine.countdowns.has id && !after.countdowns.has id
  | .proceed, .due (first :: _) :: _ => decide (first = id)
  | _, _ => false

/-- How many frames are left when what an event sets off is done: an operation of the caller leaves
its answer. -/
def depth (engine : Engine) (event : Event) : Nat :=
  engine.frames.length + if event.isRequest then 1 else 0

def dismissals (engine : Engine) (event : Event) (after : Engine) : List Dismissal :=
  (departed engine after).map fun toast =>
    { toast
      cause := if engine.endsCountdown event after toast.id then .countdown else .user
      depth := engine.depth event }

/-- The goodbye that a stride begins to say. Its call is on top, and just below it is the rest of the
dismissal. -/
def goodbye? (engine after : Engine) : Option Goodbye :=
  ((engine.begun? after).filter (·.parted?.isSome)).map (⟨·, after.frames.length - 2⟩)

@[simp] theorem owed_nil : owed [] = [] := rfl

@[simp] theorem owed_cons (frame : Frame) (below : List Frame) :
    owed (frame :: below) = frame.lastCalls.map (⟨·, below.length⟩) ++ owed below := rfl

theorem owed_plain (above below : List Frame) (plain : ∀ frame ∈ above, frame.lastCalls = []) :
    owed (above ++ below) = owed below := by
  induction above with
  | nil => rfl
  | cons frame above ih =>
      have first := plain frame List.mem_cons_self
      simpa [first] using ih fun other member => plain other (List.mem_cons_of_mem _ member)

theorem depth_of_mem_owed {frames : List Frame} {goodbye : Goodbye}
    (member : goodbye ∈ owed frames) : goodbye.depth < frames.length := by
  induction frames with
  | nil => cases member
  | cons frame below ih =>
      rcases List.mem_append.mp member with here | deeper
      · obtain ⟨call, _, rfl⟩ := List.mem_map.mp here
        exact Nat.lt_succ_self _
      · exact Nat.lt_succ_of_lt (ih deeper)

theorem goodbye?_silent {engine after : Engine} (silent : engine.begun? after = none) :
    engine.goodbye? after = none := by
  simp [goodbye?, silent]

theorem goodbye?_plain {engine after : Engine} (popped pushed below : List Frame)
    (before : engine.frames = popped ++ below) (frames : after.frames = pushed ++ below)
    (plain : ∀ frame ∈ pushed, frame.isPlain = true) (single : popped.length ≤ 1)
    (moved : popped ++ pushed = [] → below = []) : engine.goodbye? after = none := by
  have other : (engine.begun? after).filter (·.parted?.isSome) = none := by
    rw [begun?_of_frames popped pushed below before frames single moved, Option.filter_eq_none_iff]
    intro call begun
    obtain ⟨frame, first, found⟩ := Option.bind_eq_some_iff.mp begun
    simp [Frame.parted?_of_isPlain (plain frame (List.mem_of_mem_head? first)) found]
  rw [goodbye?, other]
  rfl

/-- No record begins its exit: what is under an identity is new and live, or as live as before. -/
def Quiet (engine after : Engine) : Prop :=
  ∀ id toast, after.get? id = some toast →
    (engine.numbers < toast.edition ∧ toast.exiting = false) ∨
      ∃ old, engine.get? id = some old ∧ toast.edition = old.edition ∧ toast.exiting = old.exiting

theorem quiet_of_kept {engine after : Engine}
    (kept : ∀ id toast, after.get? id = some toast → engine.get? id = some toast) :
    Quiet engine after :=
  fun id toast present => .inr ⟨toast, kept id toast present, rfl, rfl⟩

theorem quiet_of_toasts {engine after : Engine}
    (toasts : after.store.toasts = engine.store.toasts) : Quiet engine after :=
  quiet_of_kept fun id _ present => get?_congr toasts id ▸ present

theorem Orderly.quiet_filter {engine after : Engine} {kept : Toast → Bool}
    (orderly : Orderly engine) (toasts : after.store.toasts = engine.store.toasts.filter kept) :
    Quiet engine after := by
  refine quiet_of_kept fun id toast present => ?_
  rw [orderly.get?_filter toasts id] at present
  exact (Option.filter_eq_some_iff.mp present).1

theorem quiet_replaced {engine after : Engine} {toast revised : Toast}
    (found : engine.get? toast.id = some toast) (same : revised.id = toast.id)
    (toasts : after.store.toasts = Store.replaceFirst toast.id revised engine.store.toasts)
    (fate : (engine.numbers < revised.edition ∧ revised.exiting = false) ∨
      (revised.edition = toast.edition ∧ revised.exiting = toast.exiting)) : Quiet engine after := by
  intro id now present
  rw [get?_replaced found same toasts id] at present
  by_cases hit : toast.id = id
  · subst hit
    obtain rfl : revised = now := by simpa using present
    rcases fate with new | ⟨edition, exiting⟩
    · exact .inl new
    · exact .inr ⟨toast, found, edition, exiting⟩
  · rw [if_neg hit] at present
    exact .inr ⟨now, present, rfl, rfl⟩

theorem Shows.quiet {engine after : Engine} (shows : Shows engine after) : Quiet engine after := by
  cases shows with
  | revise toast revised options number found live made new publishes =>
      have same : revised.id = toast.id := by rw [made]; rfl
      have fresh : engine.numbers < revised.edition := by rw [made]; exact new.1
      exact quiet_replaced found same publishes.toasts (.inl ⟨fresh, by rw [made]; rfl⟩)
  | append toast options number made new publishes =>
      intro id now present
      rw [get?_put publishes.toasts id] at present
      by_cases hit : toast.id = id
      · obtain rfl : toast = now := by simpa [hit] using present
        subst made
        exact .inl ⟨new.1, rfl⟩
      · rw [if_neg hit] at present
        exact .inr ⟨now, present, rfl, rfl⟩

theorem Quiet.stays {engine after : Engine} {id : ToastId} {toast now : Toast}
    (quiet : Quiet engine after) (found : engine.get? id = some toast)
    (live : toast.exiting = false) (present : after.get? id = some now) : now.exiting = false := by
  rcases quiet id now present with ⟨_, stays⟩ | ⟨old, before, _, same⟩
  · exact stays
  · obtain rfl := Option.some.inj (found.symm.trans before)
    exact same.trans live

theorem Quiet.departed {engine after : Engine} (quiet : Quiet engine after)
    (orderly : Orderly engine) : departed engine after = [] := by
  apply List.filter_eq_nil_iff.mpr
  intro toast member leaving
  obtain ⟨live, now, present, exiting⟩ := by
    simpa [Toast.isLive, Option.any_eq_true] using leaving
  rw [quiet.stays (orderly.get?_of_mem member) live present] at exiting
  cases exiting

theorem Leaves.look {engine before after : Engine} {toast : Toast} {cause : Cause}
    (leaves : Leaves before after toast cause) (store : before.store = engine.store) :
    engine.get? toast.id = some toast ∧
      ∀ id, after.get? id = if toast.id = id then some toast.leave else engine.get? id := by
  have found : engine.get? toast.id = some toast := by
    rw [← get?_congr (congrArg Store.toasts store)]
    exact leaves.found
  have same : toast.leave.id = toast.id := rfl
  have toasts := leaves.publishes.toasts
  rw [store] at toasts
  exact ⟨found, get?_replaced found same toasts⟩

theorem Leaves.departed {engine before after : Engine} {toast : Toast} {cause : Cause}
    (leaves : Leaves before after toast cause) (store : before.store = engine.store)
    (orderly : Orderly engine) : departed engine after = [toast] := by
  obtain ⟨found, look⟩ := leaves.look store
  obtain ⟨above, below, split, _⟩ := Store.find?_split found
  have distinct := orderly.ids
  rw [split, List.map_append, List.map_cons, List.nodup_middle, ← List.map_append,
    List.nodup_cons] at distinct
  -- Identities are distinct, so every other record is what it was.
  have others : ∀ other ∈ above ++ below,
      ¬ (other.isLive && (after.get? other.id).any (·.exiting)) = true := by
    intro other present
    have member : other ∈ engine.store.toasts := by
      rw [split]
      exact (List.Sublist.append_left (List.sublist_cons_self toast below) above).subset present
    have apart : toast.id ≠ other.id := fun same =>
      distinct.1 (same ▸ List.mem_map_of_mem present)
    rw [look, if_neg apart, orderly.get?_of_mem member]
    simp [Toast.isLive]
  have self : (toast.isLive && (after.get? toast.id).any (·.exiting)) = true := by
    rw [look, if_pos rfl]
    simp [Toast.isLive, leaves.live, Toast.leave]
  have first := List.filter_eq_nil_iff.mpr fun other member =>
    others other (List.mem_append_left _ member)
  have last := List.filter_eq_nil_iff.mpr fun other member =>
    others other (List.mem_append_right _ member)
  rw [Engine.departed, split, List.filter_append, List.filter_cons, if_pos self, first, last]
  rfl

theorem owes_plain {engine after : Engine} (popped pushed below : List Frame)
    (before : engine.frames = popped ++ below) (frames : after.frames = pushed ++ below)
    (silent : ∀ frame ∈ popped, frame.lastCalls = [])
    (plain : ∀ frame ∈ pushed, frame.isPlain = true) (single : popped.length ≤ 1)
    (moved : popped ++ pushed = [] → below = []) :
    (engine.goodbye? after).toList ++ owed after.frames = owed engine.frames := by
  rw [goodbye?_plain popped pushed below before frames plain single moved, frames, before,
    owed_plain popped below silent,
    owed_plain pushed below fun frame member => Frame.lastCalls_of_isPlain (plain frame member)]
  rfl

theorem goodbye?_callback {engine after : Engine} {frame last : Frame} {rest : List Frame}
    {hook : Option Hook} {call : Hook → Call} (top : engine.frames = frame :: rest)
    (frames : after.frames = callback hook call ++ last :: rest)
    (said : ∀ hook, (call hook).parted?.isSome = true) (work : last.isWork = true) :
    engine.goodbye? after = hook.map fun hook => ⟨call hook, rest.length⟩ := by
  have begun : engine.begun? after =
      ((callback hook call ++ [last]).head?.bind Frame.call?) :=
    begun?_of_frames [frame] _ rest top (by simp [frames]) (by simp) (by simp)
  rw [goodbye?, begun, frames]
  cases hook with
  | none => simp [callback, Frame.call?_of_isWork work]
  | some hook => simp [callback, Frame.call?, said]

theorem owes_callback {engine after : Engine} (frame last : Frame) (rest : List Frame)
    (hook : Option Hook) (call : Hook → Call) (top : engine.frames = frame :: rest)
    (frames : after.frames = callback hook call ++ last :: rest)
    (said : ∀ hook, (call hook).parted?.isSome = true) (work : last.isWork = true)
    (calls : frame.lastCalls = hook.toList.map call ++ last.lastCalls) :
    (engine.goodbye? after).toList ++ owed after.frames = owed engine.frames := by
  rw [goodbye?_callback top frames said work, frames, top, owed_cons, calls]
  cases hook <;> rfl

inductive Origin (engine : Engine) (event : Event) (after : Engine) (id : ToastId) :
    Cause → Prop where
  | request (asked : event.isRequest = true) : Origin engine event after id .user
  /-- The countdown had nothing left at a resumption. -/
  | due (ids : List ToastId) (rest : List Frame) (own : event = .proceed)
      (top : engine.frames = .due (id :: ids) :: rest) : Origin engine event after id .countdown
  /-- The wait for the countdown is over. -/
  | expiry (place : Nat) (agenda : Agenda Deed) (generation : Nat)
      (countdowns : Countdowns ToastId Unit) (countdown : Countdown ToastId Unit)
      (polled : event = .poll place) (idle : engine.frames = [])
      (taken : engine.agenda.TakesUp agenda (some (.expire id generation)))
      (expired : engine.countdowns.expire? id generation = some (countdowns, countdown))
      (left : after.countdowns = countdowns) : Origin engine event after id .countdown

theorem Origin.cause {engine after : Engine} {event : Event} {id : ToastId} {cause : Cause}
    (origin : Origin engine event after id cause) :
    cause = if engine.endsCountdown event after id then .countdown else .user := by
  cases origin with
  | request asked => cases event <;> first | rfl | cases asked
  | due ids rest own top => simp [endsCountdown, own, top]
  | expiry place agenda generation countdowns countdown polled idle taken expired left =>
      obtain ⟨found, _, _, rfl⟩ := Countdowns.expire?_some expired
      have held : engine.countdowns.has id = true := by simp [Countdowns.has, found]
      simp [endsCountdown, polled, held, left, Countdowns.has_cancel]

inductive Parts (engine : Engine) (event : Event) (after : Engine) : Prop where
  /-- Nothing begins its exit. What was owed is owed still, but for a call that is made now. -/
  | quiet (quiet : Quiet engine after) (numbers : engine.numbers ≤ after.numbers)
      (owes : (engine.goodbye? after).toList ++ owed after.frames = owed engine.frames)
  /-- A record begins its exit. -/
  | leaves (before : Engine) (toast : Toast) (cause : Cause)
      (leaves : Leaves before after toast cause) (store : before.store = engine.store)
      (numbers : before.numbers = engine.numbers)
      (origin : Origin engine event after toast.id cause)
      (depth : before.frames.length = engine.depth event)
      (owes : owed before.frames = owed engine.frames)

theorem Effect.parts {engine after : Engine} (effect : Effect engine after)
    (orderly : Orderly engine) :
    (Quiet engine after ∧ engine.numbers ≤ after.numbers ∧ ∃ pushed,
      after.frames = pushed ++ engine.frames ∧ ∀ frame ∈ pushed, frame.isPlain = true) ∨
    ∃ toast, Leaves engine after toast .user := by
  have news (frame : Frame) (plain : frame.isPlain = true) :
      ∀ other ∈ [after.announcement, frame], other.isPlain = true := by
    have first : after.announcement.isPlain = true := rfl
    simp [first, plain]
  cases effect with
  | calm pushed outside steady toasts version countdowns agenda frames =>
      exact .inl ⟨quiet_of_toasts toasts, steady.numbers, pushed, frames,
        fun frame member => Frame.isPlain_of_isOutside (outside frame member)⟩
  | shows shows =>
      refine .inl ⟨shows.quiet, ?_⟩
      cases shows with
      | revise toast revised options number found live made new publishes =>
          exact ⟨publishes.numbers, [_, _], publishes.frames, news _ rfl⟩
      | append toast options number made new publishes =>
          exact ⟨publishes.numbers, [_, _], publishes.frames, news _ rfl⟩
  | leaves toast leaves => exact .inr ⟨toast, leaves⟩
  | clears position publishes =>
      exact .inl ⟨orderly.quiet_filter publishes.toasts, publishes.numbers, [_, _],
        publishes.frames, news _ rfl⟩
  | spares position spared same =>
      subst same
      exact .inl ⟨quiet_of_toasts rfl, Nat.le_refl _, [_], rfl, by simp [Frame.isPlain]⟩
  | paints toast painted found made publishes =>
      obtain ⟨lifecycle, _, rfl⟩ := Option.map_eq_some_iff.mp made
      have same : { toast with lifecycle }.id = toast.id := rfl
      exact .inl ⟨quiet_replaced found same publishes.toasts (.inr ⟨rfl, rfl⟩), publishes.numbers,
        [_], publishes.frames, by simp [announcement, Frame.isPlain]⟩
  | pauses same =>
      subst same
      exact .inl ⟨quiet_of_toasts rfl, Nat.le_refl _, [], rfl, by simp⟩
  | resumes same =>
      subst same
      exact .inl ⟨quiet_of_toasts rfl, Nat.le_refl _, [_], rfl, by simp [Frame.isPlain]⟩

theorem Move.parts {engine after : Engine} {event : Event} (move : Move engine event after)
    (orderly : Orderly engine) : Parts engine event after := by
  -- Most strides leave the records alone and trade one frame for plain ones.
  have beside {later : Engine} (frame : Frame) (pushed below : List Frame)
      (top : engine.frames = frame :: below) (frames : later.frames = pushed ++ below)
      (silent : frame.lastCalls = []) (plain : ∀ frame ∈ pushed, frame.isPlain = true)
      (toasts : later.store.toasts = engine.store.toasts)
      (numbers : engine.numbers ≤ later.numbers) : Parts engine event later :=
    .quiet (quiet_of_toasts toasts) numbers
      (owes_plain [frame] pushed below top frames (by simpa using silent) plain (by simp) (by simp))
  -- Those of the agenda find an empty stack.
  have idly {later : Engine} (pushed : List Frame) (idle : engine.frames = [])
      (frames : later.frames = pushed) (plain : ∀ frame ∈ pushed, frame.isPlain = true)
      (quiet : Quiet engine later) (numbers : engine.numbers ≤ later.numbers) :
      Parts engine event later :=
    .quiet quiet numbers
      (owes_plain [] pushed [] idle (by simp [frames]) (by simp) plain (by simp) (by simp))
  cases move with
  | request operation after answer turn effect =>
      rcases effect.parts (orderly.answering answer) with
        ⟨quiet, numbers, pushed, frames, plain⟩ | ⟨toast, leaves⟩
      · refine .quiet quiet numbers (owes_plain [] (pushed ++ [.returned answer]) engine.frames rfl
          (by simp [frames]) (by simp) ?_ (by simp) (by simp))
        intro frame member
        rcases List.mem_append.mp member with own | single
        · exact plain frame own
        · rw [List.mem_singleton.mp single]
          rfl
      · exact .leaves _ toast .user leaves rfl rfl (.request rfl) rfl rfl
  | published version snapshot pending rest top served =>
      exact beside _ [] rest top rfl rfl (by simp) rfl (Nat.le_refl _)
  | deliver version snapshot listener pending rest top current =>
      exact beside _ [_, _] rest top rfl rfl (by simp [Frame.isPlain, Call.parted?]) rfl
        (Nat.le_refl _)
  | arm id lifespan rest top =>
      obtain ⟨countdowns, agenda, shape⟩ := arm_shape { engine with frames := rest } id lifespan
      rw [shape]
      exact beside _ [] rest top rfl rfl (by simp) rfl (Nat.le_refl _)
  | leave toast cause rest top =>
      refine .quiet (quiet_of_toasts rfl) (Nat.le_refl _) ?_
      cases cause with
      | user =>
          exact owes_callback _ (.farewell toast) rest none (.autoClosed · toast) top rfl
            (fun _ => rfl) rfl rfl
      | countdown =>
          exact owes_callback _ (.farewell toast) rest toast.onAutoClose (.autoClosed · toast) top
            rfl (fun _ => rfl) rfl rfl
  | farewell toast rest top =>
      refine .quiet (quiet_of_toasts rfl) (Nat.le_refl _) ?_
      exact owes_callback _ (.exitWindow toast) rest toast.onDismiss (.dismissed · toast) top rfl
        (fun _ => rfl) rfl (List.append_nil _).symm
  | exitWindow toast rest top =>
      exact beside _ [] rest top rfl rfl (by simp) rfl (Nat.le_refl _)
  | disarm ids rest top =>
      obtain ⟨countdowns, shape⟩ := disarm_shape { engine with frames := rest } ids
      rw [shape]
      exact beside _ [] rest top rfl rfl (by simp) rfl (Nat.le_refl _)
  | dueDone rest top =>
      exact beside _ [] rest top rfl rfl (by simp) rfl (Nat.le_refl _)
  | dueGone id ids rest top gone =>
      exact beside _ [_] rest top rfl rfl (by simp [Frame.isPlain]) rfl (Nat.le_refl _)
  | due toast ids rest after top leaves =>
      refine .leaves _ toast .countdown leaves rfl rfl (.due ids rest rfl top) ?_ ?_
      · simp [depth, top, Event.isRequest]
      · simp [top, Frame.lastCalls]
  | handBack frame rest top idle =>
      exact beside _ [] rest top rfl (Frame.lastCalls_of_idle idle) (by simp) rfl (Nat.le_refl _)
  | waits place agenda idle taken =>
      exact idly [] idle idle (by simp) (quiet_of_toasts rfl) (Nat.le_refl _)
  | stale place agenda deed idle taken gone =>
      exact idly [] idle idle (by simp) (quiet_of_toasts rfl) (Nat.le_refl _)
  | expireGone place agenda id generation countdowns countdown idle taken expired gone =>
      exact idly [] idle idle (by simp) (quiet_of_toasts rfl) (Nat.le_refl _)
  | expire place agenda toast generation countdowns countdown after idle taken expired leaves =>
      exact .leaves _ toast .countdown leaves rfl rfl (.expiry place agenda generation countdowns
        countdown rfl idle taken expired leaves.publishes.countdowns) rfl rfl
  | remove place agenda id edition after idle taken publishes =>
      exact idly [_] idle publishes.frames (by simp [announcement, Frame.isPlain])
        (orderly.quiet_filter publishes.toasts) publishes.numbers
  | errand place agenda ticket idle taken =>
      exact idly [.caller (.errand ticket)] idle rfl (by simp [Frame.isPlain, Call.parted?])
        (quiet_of_toasts rfl) (Nat.le_refl _)
  | pass moment idle later =>
      exact idly [] idle idle (by simp) (quiet_of_toasts rfl) (Nat.le_refl _)

end Engine

end Toasts

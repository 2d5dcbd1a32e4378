import Toasts.Proofs.ExitWindows
import Toasts.Proofs.Order
import Toasts.Proofs.Upshots

/-!
Clearings. A clearing takes the records at a position out of the list at once, tells the listeners,
and then drops the countdowns of those records; nothing else is touched. What the records leave
behind, waits for their countdowns, removals and tracked work, finds none of them again: whatever is
shown under one of their identities later is a new creation with a life of its own.
-/

namespace Toasts

def Store.spared (store : Store) (position : Option Position) : Store :=
  (store.clear? position).getD store

/-- Whether an event is something that comes of earlier operations: the engine goes on by itself, or
a tracked piece of work has come to something. -/
def Event.isSequel : Event → Bool
  | .request (.settle _ _) => true
  | .request _ => false
  | _ => true

theorem Event.isManaged_of_isSequel {event : Event} (sequel : event.isSequel = true) :
    event.isManaged = true := by
  cases event with
  | request operation => cases operation <;> first | rfl | cases sequel
  | _ => rfl

theorem Countdowns.none_of_held {entries : List (Countdown ToastId Unit)} {ids : List ToastId}
    (held : ∀ countdown ∈ entries, countdown.key ∈ ids) : entries.filter (·.key ∉ ids) = [] := by
  apply List.filter_eq_nil_iff.mpr
  intro countdown member
  simpa using held countdown member

namespace Store

theorem cleared_none (store : Store) : store.cleared none = store.toasts.map (·.id) := by
  rw [cleared, List.filter_eq_self.mpr]
  exact fun _ _ => rfl

theorem spared_toasts (store : Store) (position : Option Position) :
    (store.spared position).toasts = store.toasts.filter (!clears position ·) := by
  cases cleared : store.clear? position with
  | none =>
      have none := removeWhere?_none cleared
      rw [spared, cleared, Option.getD_none, List.filter_eq_self.mpr]
      exact fun toast member => by simp [none toast member]
  | some after =>
      rw [spared, cleared, Option.getD_some, (removeWhere?_some cleared).1]
      rfl

theorem spared_shape (store : Store) (position : Option Position) :
    ∃ version, store.spared position = { store with
      toasts := store.toasts.filter (!clears position ·), version } := by
  have toasts := store.spared_toasts position
  cases cleared : store.clear? position with
  | none =>
      rw [spared, cleared, Option.getD_none] at toasts ⊢
      exact ⟨store.version, by rw [← toasts]⟩
  | some after =>
      rw [spared, cleared, Option.getD_some, (removeWhere?_some cleared).1]
      exact ⟨store.version + 1, rfl⟩

end Store

namespace Engine

variable {engine before after : Engine} {event : Event} {id : ToastId} {toast : Toast}
  {position : Option Position}

def swept (engine : Engine) (position : Option Position) : Engine :=
  { engine with
    store := engine.store.spared position
    frames := .returned (.toasts (engine.store.cleared position)) :: engine.frames }.disarm
    (position.map fun _ => engine.store.cleared position)

theorem swept_frames (engine : Engine) (position : Option Position) :
    (engine.swept position).frames =
      .returned (.toasts (engine.store.cleared position)) :: engine.frames := by
  cases position <;> rfl

theorem request_clear (engine : Engine) (position : Option Position) :
    ∃ told, (told = [] ∨ ∃ version snapshot pending, told = [.publish version snapshot pending]) ∧
      engine.request (.clear position) = { engine with
        store := engine.store.spared position
        frames := (told ++ [.disarm (position.map fun _ => engine.store.cleared position)]) ++
          .returned (.toasts (engine.store.cleared position)) :: engine.frames } := by
  cases cleared : engine.store.clear? position with
  | none =>
      refine ⟨[], .inl rfl, ?_⟩
      simp [request, perform, cleared, push, Store.spared]
  | some store =>
      refine ⟨_, .inr ⟨store.version, store.toasts, store.listeners, rfl⟩, ?_⟩
      simp [request, perform, cleared, publish, push, announcement, Store.spared]

theorem AtRest.owed (rest : engine.AtRest) : owed engine.frames = [] := by
  have plain : ∀ frame ∈ engine.frames, frame.lastCalls = [] := fun frame member =>
    Frame.lastCalls_of_isPlain (Frame.isPlain_of_isOutside (rest frame member))
  simpa using owed_plain engine.frames [] plain

/-- What a clearing leaves behind, in one equation. -/
theorem swept_shape (engine : Engine) (position : Option Position)
    (held : position = none → ∀ countdown ∈ engine.countdowns.entries,
      countdown.key ∈ engine.store.toasts.map (·.id)) :
    ∃ version, engine.swept position = { engine with
      store := { engine.store with
        toasts := engine.store.toasts.filter (!Store.clears position ·), version }
      countdowns := { engine.countdowns with
        entries := engine.countdowns.entries.filter (·.key ∉ engine.store.cleared position) }
      frames := .returned (.toasts (engine.store.cleared position)) :: engine.frames } := by
  obtain ⟨version, store⟩ := engine.store.spared_shape position
  refine ⟨version, ?_⟩
  cases position with
  | none =>
      -- A clearing of everything drops the countdowns without a look at what they are for.
      have all := engine.store.cleared_none
      rw [swept, store, all, Countdowns.none_of_held (held rfl), ← all]
      rfl
  | some position =>
      rw [swept, store]
      simp only [Option.map_some, disarm, Countdowns.cancel_each]

theorem Stride.cleared (stride : Stride before (.request (.clear position)) after) :
    after.store.toasts = before.store.toasts.filter (!Store.clears position ·) := by
  cases stride with
  | request operation turn =>
      obtain ⟨told, _, shape⟩ := before.request_clear position
      rw [shape]
      exact before.store.spared_toasts position

/-- What comes of earlier operations revises records or removes them or lets them begin their exit,
each at its own occasion. -/
theorem change?_sequel {change : Change} (sequel : event.isSequel = true)
    (asked : engine.change? event = some change) :
    (∃ id, change = .revision id ∧ event.isRequest = true) ∨
      (∃ id, change = .departure id ∧ event.isRequest = false) ∨
      ∃ doomed place, change = .removal doomed ∧ event = .poll place := by
  cases event with
  | request operation =>
      cases operation with
      | settle number outcome =>
          obtain ⟨tracked, _, rfl⟩ := Option.map_eq_some_iff.mp asked
          exact .inl ⟨tracked.toast, rfl, rfl⟩
      | _ => cases sequel
  | proceed =>
      simp only [change?] at asked
      split at asked
      next => exact .inr (.inl ⟨_, (Option.some.inj asked).symm, rfl⟩)
      next => cases asked
  | handBack => cases asked
  | poll place =>
      simp only [change?] at asked
      split at asked
      next id generation _ =>
          split at asked
          · exact .inr (.inl ⟨id, (Option.some.inj asked).symm, rfl⟩)
          · cases asked
      next => exact .inr (.inr ⟨_, place, (Option.some.inj asked).symm, rfl⟩)
      next => cases asked
  | pass moment => cases asked

inductive Fate (event : Event) (after : Engine) (toast : Toast) : Prop where
  | stays (same : after.get? toast.id = some toast)
  | revised (new : Toast) (asked : event.isRequest = true)
      (present : after.get? toast.id = some new) (birth : new.birth = toast.birth)
      (live : new.exiting = false)
  | leaves (own : event.isRequest = false) (present : after.get? toast.id = some toast.leave)
  | goes (place : Nat) (polled : event = .poll place) (gone : after.get? toast.id = none)

theorem Edits.fate (edits : Edits engine event after) (orderly : Orderly engine)
    (sequel : event.isSequel = true) (found : engine.get? toast.id = some toast) :
    Fate event after toast := by
  cases edits with
  | keeps toasts version refused => exact .stays ((get?_congr toasts toast.id).trans found)
  | makes change asked made =>
      have occasion := change?_sequel sequel asked
      cases made with
      | revision other options number sought live new store =>
          have look := get?_replaced sought (by rfl) (congrArg Store.toasts store) toast.id
          have request : event.isRequest = true := by simpa using occasion
          split at look
          next hit =>
              rw [hit, found] at sought
              obtain rfl := Option.some.inj sought
              exact .revised _ request look rfl rfl
          next => exact .stays (look.trans found)
      | creation other options number built new store => exact absurd occasion (by simp)
      | departure other sought live store =>
          have look := get?_replaced sought (by rfl) (congrArg Store.toasts store) toast.id
          have own : event.isRequest = false := by simpa using occasion
          split at look
          next hit =>
              rw [hit, found] at sought
              obtain rfl := Option.some.inj sought
              exact .leaves own look
          next => exact .stays (look.trans found)
      | paint other painted sought made store => exact absurd occasion (by simp)
      | removal doomed some store =>
          have look := orderly.get?_filter (congrArg Store.toasts store) toast.id
          obtain ⟨place, polled⟩ : ∃ place, event = .poll place := by simpa using occasion
          rw [found, Option.filter_some] at look
          split at look
          next => exact .stays look
          next => exact .goes place polled look

theorem Fate.present (fate : Fate event after toast) {new : Toast}
    (present : after.get? toast.id = some new) : new.birth = toast.birth ∧
      (toast.exiting = false → new.exiting = true → event.isRequest = false) := by
  cases fate with
  | stays same =>
      obtain rfl := Option.some.inj (same.symm.trans present)
      exact ⟨rfl, fun live exiting => by cases live.symm.trans exiting⟩
  | revised revised asked found birth live =>
      obtain rfl := Option.some.inj (found.symm.trans present)
      exact ⟨birth, fun _ exiting => by cases live.symm.trans exiting⟩
  | leaves own left =>
      obtain rfl := Option.some.inj (left.symm.trans present)
      exact ⟨rfl, fun _ _ => own⟩
  | goes place polled gone => cases gone.symm.trans present

theorem Fate.absent (fate : Fate event after toast) (absent : after.get? toast.id = none) :
    ∃ place, event = .poll place := by
  cases fate with
  | stays same => cases same.symm.trans absent
  | revised revised asked present birth live => cases present.symm.trans absent
  | leaves own left => cases left.symm.trans absent
  | goes place polled gone => exact ⟨place, polled⟩

/-- A number has been given out, and what is under the identity is younger. -/
def Anew (id : ToastId) (floor : Nat) (engine : Engine) : Prop :=
  floor ≤ engine.numbers ∧
    ∀ toast, engine.get? id = some toast → floor < toast.birth ∧ floor < toast.edition

theorem Move.anew {floor : Nat} (move : Move engine event after) (orderly : Orderly engine)
    (anew : Anew id floor engine) : Anew id floor after := by
  obtain ⟨given, young⟩ := anew
  refine ⟨Nat.le_trans given (move.numbers orderly), fun toast present => ⟨?_, ?_⟩⟩
  · rcases move.descends orderly id toast present with new | ⟨old, found, same, _⟩
    · omega
    · rw [same]
      exact (young old found).1
  · cases move.parts orderly with
    | quiet quiet numbers owes =>
        rcases quiet id toast present with ⟨new, _⟩ | ⟨old, found, same, _⟩
        · omega
        · rw [same]
          exact (young old found).2
    | leaves before leaving cause leaves store numbers origin depth owes =>
        obtain ⟨found, look⟩ := leaves.look store
        rw [look id] at present
        split at present
        next hit =>
            obtain rfl := Option.some.inj present
            exact (young leaving (hit ▸ found)).2
        next => exact (young toast present).2

/-- A creation has been made, and its record is not there any more. -/
def Lost (birth : Nat) (engine : Engine) : Prop :=
  birth ≤ engine.numbers ∧ ∀ toast ∈ engine.store.toasts, toast.birth ≠ birth

theorem Move.lost {birth : Nat} (move : Move engine event after) (orderly : Orderly engine)
    (lost : Lost birth engine) : Lost birth after := by
  obtain ⟨given, none⟩ := lost
  refine ⟨Nat.le_trans given (move.numbers orderly), fun toast member => ?_⟩
  have present := (move.orderly orderly).get?_of_mem member
  rcases move.descends orderly toast.id toast present with new | ⟨old, found, same, _⟩
  · omega
  · rw [same]
    exact none old (Store.mem_of_get? found)

theorem Stride.begun?_clear (stride : Stride before (.request (.clear position)) after) :
    before.begun? after = none := by
  cases stride with
  | request operation turn =>
      obtain ⟨told, telling, shape⟩ := before.request_clear position
      rcases telling with rfl | ⟨version, snapshot, pending, rfl⟩
      · exact begun?_of_head (by rw [shape]; rfl)
      · exact begun?_of_head (by rw [shape]; rfl)

namespace Run

variable {start finish final last : Engine} {below : List Frame}

theorem unparted {call : Run after final} (silent : call.goodbyes = [])
    (stride : Stride before (.request (.clear position)) after) :
    (∀ said ∈ call.callsBegun, said.parted? = none) ∧
      (call.callsEnded ++ final.underWay).Perm (call.callsBegun ++ before.underWay) := by
  constructor
  · have none := call.goodbyes_begun
    rw [silent, List.map_nil, eq_comm, List.filter_eq_nil_iff] at none
    intro said member
    simpa using none said member
  · have same : after.underWay = before.underWay := by
      have calls := stride.calls
      rwa [stride.begun?_clear] at calls
    rw [← same]
    exact call.calls_add_up

theorem Returns.swept {call : Run after final} {answer : Answer}
    (returns : call.Returns (.returned answer :: before.frames))
    (stride : Stride before (.request (.clear position)) after) :
    final = before.swept position ∧ answer = .toasts (before.store.cleared position) ∧
      call.goodbyes = [] := by
  cases stride with
  | request operation turn =>
      obtain ⟨told, telling, shape⟩ := before.request_clear position
      obtain ⟨same, upshot, calls⟩ := returns.upshot (congrArg Engine.frames shape) rfl
      cases same
      rw [shape] at upshot
      rcases telling with rfl | ⟨version, snapshot, pending, rfl⟩
      · refine ⟨upshot.trans ?_, rfl, List.map_eq_nil_iff.mp calls⟩
        cases position <;> rfl
      · refine ⟨upshot.trans ?_, rfl, List.map_eq_nil_iff.mp calls⟩
        cases position <;> rfl

theorem clear_returns (before : Engine) (position : Option Position) :
    ∃ final, ∃ call : Run (before.request (.clear position)) final,
      call.Returns (.returned (.toasts (before.store.cleared position)) :: before.frames) := by
  obtain ⟨told, _, shape⟩ := before.request_clear position
  have quiet : Quiet (.returned (.toasts (before.store.cleared position)) :: before.frames)
      (.start : Run (before.request (.clear position)) _) := trivial
  exact quiet.ends (congrArg Engine.frames shape)

theorem partings_append {middle : Engine} (run : Run start middle) (sequel : Run middle finish) :
    (run.append sequel).partings = run.partings ++ sequel.partings := by
  induction sequel with
  | start => simp [append, partings]
  | next sequel event stride ih => rw [append, partings, partings, ih, List.append_assoc]

/-- What is promised of a clearing of one position when it returns: it answers with the records that
were there, and they and their countdowns are gone; all else is as it was. -/
structure Clears (before final : Engine) (position : Position) : Prop where
  answer : final.frames = .returned (.toasts ((before.store.toasts.filter
    (·.position = position)).map (·.id))) :: before.frames
  toasts : final.store.toasts = before.store.toasts.filter (·.position ≠ position)
  countdowns : final.countdowns = { before.countdowns with
    entries := before.countdowns.entries.filter (·.key ∉ before.store.cleared (some position)) }
  remaining : ∀ id, final.remaining? id =
    if id ∈ before.store.cleared (some position) then none else before.remaining? id
  listeners : final.store = { before.store with
    toasts := final.store.toasts, version := final.store.version }
  others : final = { before with
    store := final.store, countdowns := final.countdowns, frames := final.frames }

/-- What is promised of the records that a clearing has taken, for a run after it. None of them
comes back or is told goodbye. Whoever is found under one of their identities is new, and what is
left from before neither dismisses nor removes it: it begins its exit by itself only when its own
lifespan has passed, and is removed only when it has parted since and its own exit window is
over. -/
structure Forgets (before : Engine) (position : Position) (later : Run final last) : Prop where
  lost : ∀ old ∈ before.store.toasts, old.position = position →
    ∀ toast ∈ last.store.toasts, toast.birth ≠ old.birth
  silent : ∀ old ∈ before.store.toasts, old.position = position →
    later.goodbyes.filter (·.isOf old.edition) = []
  anew : ∀ id ∈ before.store.cleared (some position), ∀ toast, last.get? id = some toast →
    before.numbers < toast.birth
  spared : ∀ id ∈ before.store.cleared (some position), ∀ toast, last.get? id = some toast →
    ∀ event after, Stride last event after → event.isSequel = true →
      (∀ new, after.get? id = some new → new.birth = toast.birth ∧
        (toast.exiting = false → new.exiting = true →
          event.isRequest = false ∧ later.lifetime? id = some Span.zero)) ∧
      (after.get? id = none → toast.exiting = true ∧ ∃ parting ∈ later.partings,
        parting.toast.edition = toast.edition ∧
        parting.moment + last.settings.exitWindow.coveringMillis ≤ last.now)

theorem clears_swept (before : Engine) (position : Position) :
    Clears before (before.swept (some position)) position := by
  obtain ⟨version, shape⟩ := before.swept_shape (some position) (fun none => by cases none)
  have toasts : before.store.toasts.filter (!Store.clears (some position) ·) =
      before.store.toasts.filter (·.position ≠ position) := by simp [Store.clears]
  rw [shape, toasts]
  constructor
  · rfl
  · rfl
  · rfl
  · intro id
    have each := Countdowns.get?_cancel_each (before.store.cleared (some position))
      before.countdowns id
    rw [Countdowns.cancel_each] at each
    simp only [remaining?, Countdowns.remaining?, each]
    by_cases among : id ∈ before.store.cleared (some position)
    · rw [if_pos among, if_pos among]
      rfl
    · rw [if_neg among, if_neg among]
      rfl
  · rfl
  · rfl

section Forgets

variable {settings : Settings} {defaults : Defaults} {now : Nat}
  {run : Run (fresh settings defaults now) before} {call : Run after final} {answer : Answer}
  {position : Position}

theorem Clears.numbers (clears : Clears before final position) :
    final.numbers = before.numbers := by
  rw [clears.others]

theorem Clears.left (clears : Clears before final position) {old toast : Toast}
    (here : old.position = position) (kept : toast ∈ final.store.toasts) :
    toast ∈ before.store.toasts ∧ toast ≠ old := by
  rw [clears.toasts] at kept
  obtain ⟨present, elsewhere⟩ := List.mem_filter.mp kept
  refine ⟨present, fun same => ?_⟩
  simp [same, here] at elsewhere

theorem Clears.lost (clears : Clears before final position)
    (run : Run (fresh settings defaults now) before) (managed : run.Managed) {old : Toast}
    (member : old ∈ before.store.toasts) (here : old.position = position) :
    Lost old.birth final := by
  have bound := run.births managed ((run.orderly managed).get?_of_mem member)
  have births : (before.store.toasts.map (·.birth)).Nodup :=
    List.pairwise_map.mpr ((run.inOrder managed).sorted.imp Nat.ne_of_lt)
  refine ⟨Nat.le_trans bound (Nat.le_of_eq clears.numbers.symm), fun toast kept same => ?_⟩
  obtain ⟨present, other⟩ := clears.left here kept
  exact other (List.inj_on_of_nodup_map births present member same)

theorem Clears.outlived (clears : Clears before final position) (orderly : Orderly before)
    {old : Toast} (member : old ∈ before.store.toasts) (here : old.position = position) :
    Outlived final old.edition := by
  refine ⟨clears.numbers ▸ orderly.numbered old member, fun id toast found same => ?_⟩
  obtain ⟨present, other⟩ := clears.left here (Store.mem_of_get? found)
  exact absurd (orderly.eq_of_edition present member same) other

theorem Clears.anew (clears : Clears before final position) (orderly : Orderly before)
    {id : ToastId} (among : id ∈ before.store.cleared (some position)) :
    Anew id before.numbers final := by
  have toasts : final.store.toasts =
      before.store.toasts.filter (!Store.clears (some position) ·) := by
    rw [clears.toasts]
    simp [Store.clears]
  refine ⟨Nat.le_of_eq clears.numbers.symm, fun toast present => ?_⟩
  rw [get?_cleared orderly (some position) toasts id, if_pos among] at present
  cases present

theorem age_cleared (run : Run (fresh settings defaults now) before) (orderly : Orderly before)
    (stride : Stride before (.request (.clear (some position))) after) {id : ToastId}
    (among : id ∈ before.store.cleared (some position)) : (run.next _ stride).age id = 0 := by
  obtain ⟨old, found, _⟩ := (mem_cleared orderly).mp among
  refine age_next_new run stride fun same => ?_
  rw [SameEdition, get?_cleared orderly (some position) stride.cleared id, if_pos among,
    found] at same
  cases same

theorem forgets_of_clears (passive : run.Passive) (rest : before.AtRest)
    (stride : Stride before (.request (.clear (some position))) after)
    (returns : call.Returns (.returned answer :: before.frames))
    (clears : Clears before final position) (later : Run final last) (calm : later.Passive) :
    Forgets before position later := by
  have managed := passive.managed
  have orderly := run.orderly managed
  -- The call is part of the run from the start on, and its end is in order.
  have upTo : ((run.next _ stride).append call).Passive :=
    All.append (Passive.request passive rest rfl) returns.1.passive
  have tidy := Run.orderly _ upTo.managed
  have whole : Passive (((run.next _ stride).append call).append later) := All.append upTo calm
  have anew (id : ToastId) (among : id ∈ before.store.cleared (some position)) :
      Anew id before.numbers last :=
    (later.kept (Anew id before.numbers) calm.managed tidy (clears.anew orderly among) Move.anew).2
  constructor
  · intro old member here
    have lost := clears.lost run managed member here
    exact (later.kept (Lost old.birth) calm.managed tidy lost Move.lost).2.2
  · intro old member here
    have settled := (later.settles calm.managed tidy (clears.outlived orderly member here)).2
    have quiet : owed final.frames = [] := (rest.returned returns.2).owed
    rw [quiet, List.filter_nil, List.filter_append, List.append_eq_nil_iff] at settled
    exact settled.1
  · exact fun id among toast present => ((anew id among).2 toast present).1
  · intro id among toast found event next sequel follows
    obtain rfl := Store.id_of_get? found
    have kept := Event.isManaged_of_isSequel follows
    have fate := (sequel.edits kept).fate (Run.orderly _ whole.managed) follows found
    constructor
    · intro new present
      obtain ⟨birth, own⟩ := fate.present present
      refine ⟨birth, fun live exiting => ⟨own live exiting, ?_⟩⟩
      have young : ((run.next _ stride).append call).age toast.id = 0 := by
        rw [age_append _ call (age_cleared run orderly stride among), returns.1.age_zero]
      rw [← lifetime?_append _ later young]
      exact departs_spent _ whole sequel (own live exiting) found live present exiting
    · intro absent
      obtain ⟨place, rfl⟩ := fate.absent absent
      have attended := Run.attended _ whole.managed
      have under := (sequel.move kept).removed found absent
      have exiting := ((Run.orderly _ whole.managed).spent _ (exit_mem under)).2 toast
        (Store.mem_of_get? found) rfl
      obtain ⟨parting, parted, removes⟩ := attended.timed _ under
      refine ⟨exiting, parting, ?_, removes.edition.symm, attended.setting ▸ removes.early⟩
      -- Every edition that had parted when the clearing returned is older than this record.
      rw [partings_append] at parted
      refine (List.mem_append.mp parted).resolve_left fun earlier => ?_
      have past := ((Run.attended _ upTo.managed).past parting earlier).1
      have given := ((anew toast.id among).2 toast found).2
      rw [clears.numbers, ← removes.edition] at past
      exact absurd past (Nat.not_le.mpr given)

end Forgets

/-- The caller asks for these clearings one after the other, and takes the answer of each before it
asks for the next; nobody asks for anything else. The identities are those of all the answers. -/
inductive Sweep : Engine → List (Option Position) → List ToastId → Engine → Prop where
  | done (engine : Engine) : Sweep engine [] [] engine
  | next {engine after answered taken last : Engine} {position : Option Position}
      {positions : List (Option Position)} {ids more : List ToastId}
      (stride : Stride engine (.request (.clear position)) after) (call : Run after answered)
      (returns : call.Returns (.returned (.toasts ids) :: engine.frames))
      (takes : Stride answered .handBack taken) (rest : Sweep taken positions more last) :
      Sweep engine (position :: positions) (ids ++ more) last

theorem handBack_swept {answered taken : Engine} {position : Option Position}
    (same : answered = before.swept position) (takes : Stride answered .handBack taken) :
    taken = { before.swept position with frames := before.frames } := by
  subst same
  cases takes with
  | handBack frame rest top idle =>
      obtain ⟨rfl, rfl⟩ := List.cons.inj (top.symm.trans (swept_frames before position))
      exact resumeTurn_pops top idle

theorem sweep_exists (positions : List (Option Position)) {engine : Engine}
    (turn : engine.isCallersTurn = true) : ∃ ids last, Sweep engine positions ids last := by
  induction positions generalizing engine with
  | nil => exact ⟨[], engine, .done engine⟩
  | cons position positions ih =>
      obtain ⟨answered, call, returns⟩ := clear_returns engine position
      have stride : Stride engine (.request (.clear position)) _ := .request _ turn
      have takes : Stride answered .handBack answered.resumeTurn := .handBack _ _ returns.2 rfl
      have taken := handBack_swept (returns.swept stride).1 takes
      have again : answered.resumeTurn.isCallersTurn = true := by
        rw [taken]
        exact turn
      obtain ⟨ids, last, rest⟩ := ih again
      exact ⟨_, last, .next stride call returns takes rest⟩

theorem Sweep.left {order : List Position} {engine last : Engine} {ids : List ToastId}
    (sweep : Sweep engine (order.map some) ids last) :
    ids.Perm ((engine.store.toasts.filter (·.position ∈ order)).map (·.id)) ∧
    ∃ version, last = { engine with
      store := { engine.store with
        toasts := engine.store.toasts.filter (·.position ∉ order), version }
      countdowns := { engine.countdowns with
        entries := engine.countdowns.entries.filter (·.key ∉ ids) } } := by
  induction order generalizing engine ids with
  | nil =>
      cases sweep with
      | done => exact ⟨by simp, last.store.version, by simp⟩
  | cons position order ih =>
      cases sweep with
      | next stride call returns takes rest =>
          obtain ⟨same, answer, _⟩ := returns.swept stride
          cases answer
          have taken := handBack_swept same takes
          obtain ⟨first, shape⟩ := engine.swept_shape (some position) (fun none => by cases none)
          rw [shape] at taken
          subst taken
          obtain ⟨perm, version, left⟩ := ih rest
          constructor
          · have split := List.filter_append_perm (Store.clears (some position))
              (engine.store.toasts.filter (·.position ∈ position :: order))
            have here : (engine.store.toasts.filter (·.position ∈ position :: order)).filter
                (Store.clears (some position)) =
                  engine.store.toasts.filter (Store.clears (some position)) := by
              rw [List.filter_filter]
              exact List.filter_congr fun toast _ => by
                by_cases hit : toast.position = position <;> simp [Store.clears, hit]
            have later : (engine.store.toasts.filter (·.position ∈ position :: order)).filter
                (!Store.clears (some position) ·) = (engine.store.toasts.filter
                  (!Store.clears (some position) ·)).filter (·.position ∈ order) := by
              rw [List.filter_filter, List.filter_filter]
              exact List.filter_congr fun toast _ => by
                by_cases hit : toast.position = position <;> simp [Store.clears, hit]
            rw [here, later] at split
            refine List.Perm.trans (perm.append_left _) ?_
            simpa [Store.cleared] using split.map (·.id)
          · refine ⟨version, left.trans ?_⟩
            simp [List.filter_filter, Store.clears, Bool.and_comm]

theorem Sweep.whole {engine last : Engine} {ids : List ToastId}
    (sweep : Sweep engine [none] ids last) (held : ∀ countdown ∈ engine.countdowns.entries,
      countdown.key ∈ engine.store.toasts.map (·.id)) :
    ids = engine.store.toasts.map (·.id) ∧ ∃ version, last = { engine with
      store := { engine.store with toasts := [], version }
      countdowns := { engine.countdowns with entries := [] } } := by
  cases sweep with
  | next stride call returns takes rest =>
      cases rest
      obtain ⟨same, answer, _⟩ := returns.swept stride
      cases answer
      obtain ⟨version, shape⟩ := engine.swept_shape none fun _ => held
      have all := engine.store.cleared_none
      refine ⟨by rw [all, List.append_nil], version, ?_⟩
      rw [handBack_swept same takes, shape, all, Countdowns.none_of_held held]
      simp [Store.clears]

theorem held_at_rest {settings : Settings} {defaults : Defaults} {now : Nat}
    (run : Run (fresh settings defaults now) finish) (passive : run.Passive)
    (rest : finish.AtRest) :
    ∀ countdown ∈ finish.countdowns.entries, countdown.key ∈ finish.store.toasts.map (·.id) := by
  intro countdown member
  have step := in_step_of_apart run passive.managed rest (passive.apart countdown.key)
  have called := step.held.mp (Countdowns.has_of_mem member)
  cases found : finish.get? countdown.key with
  | none => simp [called_of_absent found] at called
  | some toast => exact List.mem_map.mpr ⟨toast, Store.mem_of_get? found, Store.id_of_get? found⟩

/-- Clearing one position touches only that position. In every run in which listeners and callbacks
ask for nothing, at rest: a clearing of a position begins no call and comes to its answer, which
names the records that were there, live or not, in their order; when it does, they and their
countdowns are gone, all else is as it was, and no callback of a toast has been called: none is among
the calls that have begun since, and no other call has ended or is under way. In every such run after it none of them
comes back, and what was left of them neither removes nor dismisses a record that is created later
under one of their identities. Clearing everything comes to the same, but for the number of the
snapshot, as clearing all positions one after another, in whatever order. -/
theorem clearing_exact {settings : Settings} {defaults : Defaults} {now : Nat}
    (run : Run (fresh settings defaults now) before) (passive : run.Passive)
    (rest : before.AtRest) :
    (∀ position after, Stride before (.request (.clear (some position))) after →
      before.begun? after = none ∧
      (∃ final, ∃ call : Run after final, call.Returns
        (.returned (.toasts (before.store.cleared (some position))) :: before.frames)) ∧
      ∀ answer final, ∀ call : Run after final, call.Returns (.returned answer :: before.frames) →
        Clears before final position ∧
        (call.goodbyes = [] ∧ (∀ said ∈ call.callsBegun, said.parted? = none) ∧
          (call.callsEnded ++ final.underWay).Perm (call.callsBegun ++ before.underWay)) ∧
        ∀ last, ∀ later : Run final last, later.Passive → Forgets before position later) ∧
    (∀ order : List Position, order.Perm Position.all →
      (before.isCallersTurn = true → (∃ ids whole, Sweep before [none] ids whole) ∧
        ∃ ids last, Sweep before (order.map some) ids last) ∧
      ∀ ids whole more last, Sweep before [none] ids whole →
        Sweep before (order.map some) more last →
        ids.Perm more ∧ whole.store.toasts = [] ∧ whole.countdowns.entries = [] ∧
        ∃ version, last = { whole with store := { whole.store with version } }) := by
  constructor
  · intro position after stride
    refine ⟨stride.begun?_clear, ?_, ?_⟩
    · cases stride with
      | request operation turn => exact clear_returns before (some position)
    · intro answer final call returns
      obtain ⟨same, _, silent⟩ := returns.swept stride
      have clears : Clears before final position := same ▸ clears_swept before position
      refine ⟨clears, ⟨silent, unparted silent stride⟩, fun last later calm => ?_⟩
      exact forgets_of_clears passive rest stride returns clears later calm
  · intro order every
    constructor
    · intro turn
      exact ⟨sweep_exists [none] turn, sweep_exists (order.map some) turn⟩
    · intro ids whole more last one each
      have held := run.held_at_rest passive rest
      obtain ⟨same, version, swept⟩ := one.whole held
      obtain ⟨perm, number, left⟩ := each.left
      have among (position : Position) : position ∈ order :=
        every.mem_iff.mpr (Position.mem_all position)
      have taken : before.store.toasts.filter (·.position ∈ order) = before.store.toasts := by
        simp [among]
      have kept : before.store.toasts.filter (·.position ∉ order) = [] := by simp [among]
      rw [taken, ← same] at perm
      have free : before.countdowns.entries.filter (·.key ∉ more) = [] :=
        Countdowns.none_of_held fun countdown member => by
          rw [perm.mem_iff, same]
          exact held countdown member
      rw [kept, free] at left
      subst swept
      exact ⟨perm.symm, rfl, rfl, number, left⟩

/-- Of two toasts in one corner one is dismissed, and a third is elsewhere; somebody listens. -/
def corner : Σ finish, Run (fresh {} {} 0) finish :=
  (Run.start.extend? [.request (.subscribe ⟨0⟩), .handBack,
    .request (.present { id := some (.named "x"), position := some .topLeft }), .proceed, .handBack,
    .proceed, .proceed, .handBack, .poll 0,
    .request (.present { id := some (.named "y"), position := some .topLeft }), .proceed, .handBack,
    .proceed, .proceed, .handBack, .poll 0,
    .request (.present { id := some (.named "z"), position := some .bottomRight }), .proceed,
    .handBack, .proceed, .proceed, .handBack, .poll 0,
    .request (.dismiss (.named "x")), .proceed, .handBack, .proceed, .proceed, .proceed, .proceed,
    .handBack, .poll 0]).get rfl

def emptied : Σ finish, Run (corner.1.request (.clear (some .topLeft))) finish :=
  (Run.start.extend? [.proceed, .handBack, .proceed, .proceed]).get rfl

def outlasting : Σ finish, Run emptied.1 finish :=
  (Run.start.extend? [.handBack,
    .request (.present { id := some (.named "x") }), .proceed, .handBack, .proceed, .proceed,
    .handBack, .poll 0, .pass 400, .poll 0]).get rfl

theorem corner_cleared :
    (corner.2.Passive ∧ corner.1.AtRest ∧
      emptied.2.Returns (.returned (.toasts [.named "x", .named "y"]) :: corner.1.frames) ∧
      Clears corner.1 emptied.1 .topLeft ∧ outlasting.2.Passive ∧
      Forgets corner.1 .topLeft outlasting.2 ∧
      ∃ toast, outlasting.1.get? (.named "x") = some toast ∧ corner.1.numbers < toast.birth) ∧
    ∃ ids whole more last, Sweep corner.1 [none] ids whole ∧
      Sweep corner.1 (Position.all.reverse.map some) more last ∧ ids.Perm more := by
  obtain ⟨one, all⟩ := clearing_exact corner.2 (by decide) (by decide)
  have stride : Stride corner.1 (.request (.clear (some .topLeft))) _ := .request _ rfl
  have returns : emptied.2.Returns (.returned (.toasts [.named "x", .named "y"]) ::
      corner.1.frames) := ⟨by decide, rfl⟩
  obtain ⟨clears, _, after⟩ := (one .topLeft _ stride).2.2 _ _ emptied.2 returns
  have forgets := after _ outlasting.2 (by decide)
  obtain ⟨⟨⟨ids, whole, once⟩, more, last, each⟩, same⟩ :=
    (all Position.all.reverse (List.reverse_perm _)).imp_left (· rfl)
  refine ⟨⟨by decide, by decide, returns, clears, by decide, forgets, _, rfl, ?_⟩, ?_⟩
  · exact forgets.anew (.named "x") (by decide) _ rfl
  · exact ⟨ids, whole, more, last, once, each, (same ids whole more last once each).1⟩

end Run

end Engine

end Toasts

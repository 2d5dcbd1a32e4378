import Toasts.Proofs.Run

/-!
What a stride can do. An operation acts on the toasts, the countdowns and the agenda at once and
leaves the rest of its work as frames; `Effect` lists what can become of an engine in that way. A
stride is an operation, a frame that is worked off, a turn that is handed back, a task that is taken
up, or time that passes; `Move` lists what comes of each. Everything that holds of all runs is read
off these two lists.
-/

namespace Toasts

namespace Store

theorem update?_some {store after : Store} {id : ToastId} {change : Toast → Option Toast}
    (updated : store.update? id change = some after) :
    ∃ toast revised, store.get? id = some toast ∧ change toast = some revised ∧
      after = store.swap (replaceFirst id revised store.toasts) := by
  simp only [update?, Option.map_eq_some_iff, Option.bind_eq_some_iff] at updated
  obtain ⟨revised, ⟨toast, found, changed⟩, rfl⟩ := updated
  exact ⟨toast, revised, found, changed, rfl⟩

theorem id_of_get? {store : Store} {id : ToastId} {toast : Toast}
    (found : store.get? id = some toast) : toast.id = id := by
  have hit := List.find?_some found
  exact of_decide_eq_true hit

theorem mem_of_get? {store : Store} {id : ToastId} {toast : Toast}
    (found : store.get? id = some toast) : toast ∈ store.toasts :=
  List.mem_of_find?_eq_some found

theorem removeWhere?_some {store after : Store} {doomed : Toast → Bool}
    (removed : store.removeWhere? doomed = some after) :
    after = store.swap (store.toasts.filter (!doomed ·)) ∧ ∃ toast ∈ store.toasts, doomed toast := by
  simp only [removeWhere?] at removed
  split at removed
  next some => exact ⟨by simpa using removed.symm, by simpa using some⟩
  next => cases removed

theorem removeWhere?_none {store : Store} {doomed : Toast → Bool}
    (kept : store.removeWhere? doomed = none) : ∀ toast ∈ store.toasts, doomed toast = false := by
  simpa [removeWhere?] using kept

end Store

def Frame.isDue : Frame → Bool
  | .due _ => true
  | _ => false

namespace Engine

/-- What no stride but the passing of time changes, and numbers only grow. -/
structure Steady (engine after : Engine) : Prop where
  settings : after.settings = engine.settings
  numbers : engine.numbers ≤ after.numbers

/-- The toasts become other ones, all listeners are to be told, and then `rest` is to be done. -/
structure Publishes (engine after : Engine) (toasts : List Toast) (rest : List Frame) : Prop
    extends Steady engine after where
  toasts : after.store.toasts = toasts
  version : after.store.version = engine.store.version + 1
  countdowns : after.countdowns = engine.countdowns
  agenda : after.agenda = engine.agenda
  frames : after.frames = after.announcement :: rest

structure Leaves (engine after : Engine) (toast : Toast) (cause : Cause) : Prop where
  found : engine.get? toast.id = some toast
  live : toast.exiting = false
  publishes : Publishes engine after (Store.replaceFirst toast.id toast.leave engine.store.toasts)
    (.leave toast cause :: engine.frames)

inductive Shows (engine after : Engine) : Prop where
  | revise (toast revised : Toast) (options : Options) (number : Nat)
      (found : engine.get? toast.id = some toast) (live : toast.exiting = false)
      (made : revised = toast.revise options engine.settings engine.screen number)
      (new : engine.numbers < number ∧ number ≤ after.numbers)
      (publishes : Publishes engine after
        (Store.replaceFirst toast.id revised engine.store.toasts)
        (.arm toast.id revised.lifespan :: engine.frames))
  | append (toast : Toast) (options : Options) (number : Nat)
      (made : toast = Toast.create options engine.defaults engine.settings engine.screen number)
      (new : engine.numbers < number ∧ number ≤ after.numbers)
      (publishes : Publishes engine after
        (engine.store.toasts.filter (·.id ≠ toast.id) ++ [toast])
        (.arm toast.id toast.lifespan :: engine.frames))

inductive Effect (engine after : Engine) : Prop where
  /-- Toasts and countdowns stay as they are. -/
  | calm (pushed : List Frame) (outside : ∀ frame ∈ pushed, frame.isOutside = true)
      (steady : Steady engine after) (toasts : after.store.toasts = engine.store.toasts)
      (version : after.store.version = engine.store.version)
      (countdowns : after.countdowns = engine.countdowns)
      (agenda : after.agenda = engine.agenda ∨
        ∃ delay ticket, after.agenda = engine.agenda.spawn delay (.errand ticket))
      (frames : after.frames = pushed ++ engine.frames)
  | shows (shows : Shows engine after)
  | leaves (toast : Toast) (leaves : Leaves engine after toast .user)
  /-- The toasts of a clearing go. -/
  | clears (position : Option Position)
      (publishes : Publishes engine after (engine.store.toasts.filter (!Store.clears position ·))
        (.disarm (position.map fun _ => engine.store.cleared position) :: engine.frames))
  /-- A clearing finds no toast to take. -/
  | spares (position : Option Position)
      (spared : ∀ toast ∈ engine.store.toasts, Store.clears position toast = false)
      (same : after = engine.push [.disarm (position.map fun _ => [])])
  /-- The first paint of a toast is noted. -/
  | paints (toast painted : Toast) (found : engine.get? toast.id = some toast)
      (made : toast.painted? = some painted)
      (publishes : Publishes engine after (Store.replaceFirst toast.id painted engine.store.toasts)
        engine.frames)
  | pauses (same : after = { engine with countdowns := engine.countdowns.pause engine.now })
  | resumes (same : after = { engine with
        countdowns := (engine.countdowns.resume engine.now).countdowns
        agenda := keepVigils engine.agenda (engine.countdowns.resume engine.now).vigils
        frames := .due ((engine.countdowns.resume engine.now).due.map (·.key)) :: engine.frames })

theorem Steady.refl (engine : Engine) : Steady engine engine := ⟨rfl, Nat.le_refl _⟩

theorem publish_publishes (engine : Engine) (toasts : List Toast) (rest : List Frame) :
    Publishes engine (engine.publish (engine.store.swap toasts) rest) toasts
      (rest ++ engine.frames) where
  settings := rfl
  numbers := Nat.le_refl _
  toasts := rfl
  version := rfl
  countdowns := rfl
  agenda := rfl
  frames := rfl

theorem revise?_some {engine after : Engine} {id : ToastId} {options : Options}
    (revised : engine.revise? id options = some after) :
    ∃ toast, toast.id = id ∧ Shows engine after ∧ engine.get? id = some toast := by
  simp only [revise?, number] at revised
  split at revised
  next => cases revised
  next toast found =>
      split at revised
      next live =>
          obtain ⟨store, updated, rfl⟩ := Option.map_eq_some_iff.mp revised
          obtain ⟨other, changed, found', change, rfl⟩ := Store.update?_some updated
          obtain rfl : other = toast := Option.some.inj (found'.symm.trans found)
          obtain rfl := Option.some.inj change
          obtain rfl := Store.id_of_get? found'
          refine ⟨other, rfl, ?_, found⟩
          refine .revise other _ options (engine.numbers + 1) found
            (by simpa [Toast.isLive] using live) rfl ⟨Nat.lt_succ_self _, Nat.le_refl _⟩ ?_
          exact { publish_publishes { engine with numbers := engine.numbers + 1 } _ _ with
            numbers := Nat.le_succ _ }
      next => cases revised

theorem dismiss?_some {engine after : Engine} {id : ToastId} {cause : Cause}
    (dismissed : engine.dismiss? id cause = some after) :
    ∃ toast, toast.id = id ∧ Leaves engine after toast cause := by
  simp only [dismiss?] at dismissed
  split at dismissed
  next => cases dismissed
  next toast found =>
      split at dismissed
      next live =>
          obtain ⟨store, updated, rfl⟩ := Option.map_eq_some_iff.mp dismissed
          obtain ⟨other, changed, found', change, rfl⟩ := Store.update?_some updated
          obtain rfl : other = toast := Option.some.inj (found'.symm.trans found)
          obtain rfl := Option.some.inj change
          obtain rfl := Store.id_of_get? found'
          exact ⟨other, rfl, found, by simpa [Toast.isLive] using live, publish_publishes engine _ _⟩
      next => cases dismissed

theorem dismiss?_none {engine : Engine} {id : ToastId} {cause : Cause}
    (refused : engine.dismiss? id cause = none) (toast : Toast)
    (found : engine.get? id = some toast) : toast.exiting = true := by
  cases exiting : toast.exiting with
  | true => rfl
  | false =>
      have found' : engine.store.get? id = some toast := found
      simp [dismiss?, found, Toast.isLive, exiting, Store.update?, found'] at refused

theorem Shows.numbers {engine after : Engine} (shows : Shows engine after) :
    engine.numbers ≤ after.numbers := by
  cases shows with
  | revise toast revised options number found live made new publishes => exact publishes.numbers
  | append toast options number made new publishes => exact publishes.numbers

theorem append_shows (engine : Engine) (options : Options) :
    Shows engine (engine.append options).1 := by
  refine .append _ options (engine.numbers + 1) rfl ⟨Nat.lt_succ_self _, Nat.le_refl _⟩ ?_
  exact { publish_publishes { engine with numbers := engine.numbers + 1 } _ _ with
    numbers := Nat.le_succ _ }

theorem present_shows (engine : Engine) (options : Options) :
    Shows engine (engine.present options).1 := by
  simp only [present]
  split
  next id _ =>
      split
      next revised found =>
          obtain ⟨_, _, shows, _⟩ := revise?_some found
          exact shows
      next => exact append_shows engine options
  next => exact append_shows engine options

theorem Shows.beside {engine after : Engine} {numbers : Nat} {promises : List Tracked}
    (shows : Shows { engine with numbers, promises } after) (less : engine.numbers ≤ numbers)
    (tracked : List Tracked) : Shows engine { after with promises := tracked } := by
  cases shows with
  | revise toast revised options number found live made new publishes =>
      exact .revise toast revised options number found live made
        ⟨Nat.lt_of_le_of_lt less new.1, new.2⟩
        { publishes with numbers := Nat.le_trans less publishes.numbers }
  | append toast options number made new publishes =>
      exact .append toast options number made ⟨Nat.lt_of_le_of_lt less new.1, new.2⟩
        { publishes with numbers := Nat.le_trans less publishes.numbers }

theorem track_shows (engine : Engine) (options : PromiseOptions) :
    Shows engine (engine.track options).1 :=
  (present_shows { engine with numbers := engine.numbers + 1 } _).beside (Nat.le_succ _) _

theorem settle_effect (engine : Engine) (number : Nat) (outcome : Outcome) :
    Effect engine (engine.settle number outcome) := by
  simp only [settle]
  split
  next => exact .calm [] (by simp) (Steady.refl _) rfl rfl rfl (.inl rfl) rfl
  next tracked _ =>
      cases revised : revise? { engine with
          promises := engine.promises.filter (·.number ≠ number) } tracked.toast
          (tracked.options.settled outcome) with
      | none => exact .calm [] (by simp) ⟨rfl, Nat.le_refl _⟩ rfl rfl rfl (.inl rfl) rfl
      | some after =>
          obtain ⟨_, _, shows, _⟩ := revise?_some revised
          exact .shows (shows.beside (Nat.le_refl _) after.promises)

theorem perform_effect (engine : Engine) (operation : Operation)
    (managed : operation.isWrite = false) : Effect engine (engine.perform operation).1 := by
  -- An operation that finds nothing to do is calm.
  have refused : Effect engine engine := .calm [] (by simp) (Steady.refl _) rfl rfl rfl (.inl rfl) rfl
  cases operation with
  | present options => exact .shows (present_shows engine options)
  | update id options =>
      cases revised : engine.revise? id options with
      | none => simpa [perform, orRefuse, revised] using refused
      | some after =>
          obtain ⟨_, _, shows, _⟩ := revise?_some revised
          simpa [perform, orRefuse, revised] using Effect.shows shows
  | dismiss id =>
      cases dismissed : engine.dismiss? id .user with
      | none => simpa [perform, orRefuse, dismissed] using refused
      | some after =>
          obtain ⟨toast, _, leaves⟩ := dismiss?_some dismissed
          simpa [perform, orRefuse, dismissed] using Effect.leaves toast leaves
  | clear position =>
      cases cleared : engine.store.clear? position with
      | none =>
          have spared := Store.removeWhere?_none cleared
          have none : engine.store.cleared position = [] := by
            simpa [Store.cleared] using spared
          have effect : Effect engine (engine.push [.disarm (position.map fun _ => [])]) :=
            .spares position spared rfl
          simpa [perform, cleared, none] using effect
      | some store =>
          obtain ⟨rfl, _⟩ := Store.removeWhere?_some cleared
          have effect := Effect.clears position (publish_publishes engine
            (engine.store.toasts.filter (!Store.clears position ·))
            [.disarm (position.map fun _ => engine.store.cleared position)])
          simpa [perform, cleared] using effect
  | markVisible id =>
      cases painted : engine.store.update? id Toast.painted? with
      | none => simpa [perform, orRefuse, painted] using refused
      | some store =>
          obtain ⟨toast, made, found, change, rfl⟩ := Store.update?_some painted
          obtain rfl := Store.id_of_get? found
          have effect := Effect.paints toast made found change (publish_publishes engine _ [])
          simpa [perform, orRefuse, painted] using effect
  | setDefaultPosition position =>
      exact .calm [] (by simp) ⟨rfl, Nat.le_refl _⟩ rfl rfl rfl (.inl rfl) rfl
  | setDefaultOptions options =>
      exact .calm [] (by simp) ⟨rfl, Nat.le_refl _⟩ rfl rfl rfl (.inl rfl) rfl
  | pause => exact .pauses rfl
  | resume => exact .resumes rfl
  | promise options => exact .shows (track_shows engine options)
  | settle number outcome => exact settle_effect engine number outcome
  | subscribe hook =>
      exact .calm [] (by simp) ⟨rfl, Nat.le_refl _⟩ rfl rfl rfl (.inl rfl) rfl
  | unsubscribe number =>
      exact .calm [] (by simp) ⟨rfl, Nat.le_refl _⟩ rfl rfl rfl (.inl rfl) rfl
  | click id =>
      cases action : (engine.get? id).bind (·.action) with
      | none => simpa [perform, action] using refused
      | some action' =>
          have effect : Effect engine (engine.push [.caller (.clicked action')]) :=
            .calm [.caller (.clicked action')] (by simp [Frame.isOutside]) ⟨rfl, Nat.le_refl _⟩
              rfl rfl rfl (.inl rfl) rfl
          simpa [perform, action] using effect
  | write change => simp [Operation.isWrite] at managed
  | place element bounds =>
      exact .calm [] (by simp) ⟨rfl, Nat.le_refl _⟩ rfl rfl rfl (.inl rfl) rfl
  | errand delay ticket =>
      exact .calm [] (by simp) ⟨rfl, Nat.le_refl _⟩ rfl rfl rfl (.inr ⟨delay, ticket, rfl⟩) rfl

theorem Effect.atop {engine after : Engine} (effect : Effect engine after) (below : List Frame) :
    Effect { engine with frames := engine.frames ++ below }
      { after with frames := after.frames ++ below } := by
  have lift {toasts rest} (publishes : Publishes engine after toasts rest) :
      Publishes { engine with frames := engine.frames ++ below }
        { after with frames := after.frames ++ below } toasts (rest ++ below) :=
    { publishes with frames := by simp [publishes.frames, announcement] }
  cases effect with
  | calm pushed outside steady toasts version countdowns agenda frames =>
      exact .calm pushed outside ⟨steady.settings, steady.numbers⟩ toasts version countdowns agenda
        (by simp [frames])
  | shows shows =>
      cases shows with
      | revise toast revised options number found live made new publishes =>
          exact .shows (.revise toast revised options number found live made new (lift publishes))
      | append toast options number made new publishes =>
          exact .shows (.append toast options number made new (lift publishes))
  | leaves toast leaves => exact .leaves toast ⟨leaves.found, leaves.live, lift leaves.publishes⟩
  | clears position publishes => exact .clears position (lift publishes)
  | spares position spared same => subst same; exact .spares position spared rfl
  | paints toast painted found made publishes =>
      exact .paints toast painted found made (lift publishes)
  | pauses same => subst same; exact .pauses rfl
  | resumes same => subst same; exact .resumes rfl

/-- An operation leaves the frames below as they are. Only a resumption makes dismissals due, and it
touches no record. -/
theorem Effect.above {engine after : Engine} (effect : Effect engine after) :
    ∃ pushed, after.frames = pushed ++ engine.frames ∧
      ((∀ frame ∈ pushed, frame.isDue = false) ∨
        (pushed = [.due ((engine.countdowns.resume engine.now).due.map (·.key))] ∧
          after.store = engine.store)) := by
  cases effect with
  | calm pushed outside steady toasts version countdowns agenda frames =>
      refine ⟨pushed, frames, .inl fun frame member => ?_⟩
      have out := outside frame member
      cases frame <;> first | rfl | cases out
  | shows shows =>
      cases shows with
      | revise toast revised options number found live made new publishes =>
          exact ⟨[_, _], publishes.frames, .inl (by simp [announcement, Frame.isDue])⟩
      | append toast options number made new publishes =>
          exact ⟨[_, _], publishes.frames, .inl (by simp [announcement, Frame.isDue])⟩
  | leaves toast leaves =>
      exact ⟨[_, _], leaves.publishes.frames, .inl (by simp [announcement, Frame.isDue])⟩
  | clears position publishes =>
      exact ⟨[_, _], publishes.frames, .inl (by simp [announcement, Frame.isDue])⟩
  | spares position spared same =>
      subst same
      exact ⟨[_], rfl, .inl (by simp [Frame.isDue])⟩
  | paints toast painted found made publishes =>
      exact ⟨[_], publishes.frames, .inl (by simp [announcement, Frame.isDue])⟩
  | pauses same =>
      subst same
      exact ⟨[], rfl, .inl (by simp)⟩
  | resumes same =>
      subst same
      exact ⟨[_], rfl, .inr ⟨rfl, rfl⟩⟩

theorem request_effect (engine : Engine) (operation : Operation)
    (managed : operation.isWrite = false) : ∃ answer,
    Effect { engine with frames := .returned answer :: engine.frames }
      (engine.request operation) :=
  ⟨({ engine with frames := [] }.perform operation).2,
    (perform_effect { engine with frames := [] } operation managed).atop _⟩

inductive Move (engine : Engine) : Event → Engine → Prop where
  | request (operation : Operation) (after : Engine) (answer : Answer)
      (turn : engine.isCallersTurn = true)
      (effect : Effect { engine with frames := .returned answer :: engine.frames } after) :
      Move engine (.request operation) after
  /-- Everybody has had a snapshot, or it is out of date. -/
  | published (version : Nat) (snapshot : List Toast) (pending : List Listener) (rest : List Frame)
      (top : engine.frames = .publish version snapshot pending :: rest)
      (served : pending = [] ∨ engine.store.version ≠ version) :
      Move engine .proceed { engine with frames := rest }
  /-- The next listener has its turn. -/
  | deliver (version : Nat) (snapshot : List Toast) (listener : Listener)
      (pending : List Listener) (rest : List Frame)
      (top : engine.frames = .publish version snapshot (listener :: pending) :: rest)
      (current : engine.store.version = version) :
      Move engine .proceed { engine with
        frames := .caller (.deliver listener snapshot) :: .publish version snapshot pending :: rest }
  | arm (id : ToastId) (lifespan : Lifespan) (rest : List Frame)
      (top : engine.frames = .arm id lifespan :: rest) :
      Move engine .proceed ({ engine with frames := rest }.arm id lifespan)
  | leave (toast : Toast) (cause : Cause) (rest : List Frame)
      (top : engine.frames = .leave toast cause :: rest) :
      Move engine .proceed { engine with
        countdowns := engine.countdowns.cancel toast.id
        frames := (match cause with
          | .countdown => callback toast.onAutoClose (.autoClosed · toast)
          | .user => []) ++ .farewell toast :: rest }
  | farewell (toast : Toast) (rest : List Frame) (top : engine.frames = .farewell toast :: rest) :
      Move engine .proceed { engine with
        frames := callback toast.onDismiss (.dismissed · toast) ++ .exitWindow toast :: rest }
  | exitWindow (toast : Toast) (rest : List Frame)
      (top : engine.frames = .exitWindow toast :: rest) :
      Move engine .proceed { engine with
        agenda := engine.agenda.spawn engine.settings.exitWindow (.remove toast.id toast.edition)
        frames := rest }
  | disarm (ids : Option (List ToastId)) (rest : List Frame)
      (top : engine.frames = .disarm ids :: rest) :
      Move engine .proceed ({ engine with frames := rest }.disarm ids)
  | dueDone (rest : List Frame) (top : engine.frames = .due [] :: rest) :
      Move engine .proceed { engine with frames := rest }
  /-- The toast of a countdown that had nothing left is no longer live. -/
  | dueGone (id : ToastId) (ids : List ToastId) (rest : List Frame)
      (top : engine.frames = .due (id :: ids) :: rest)
      (gone : ∀ toast, engine.get? id = some toast → toast.exiting = true) :
      Move engine .proceed { engine with frames := .due ids :: rest }
  | due (toast : Toast) (ids : List ToastId) (rest : List Frame) (after : Engine)
      (top : engine.frames = .due (toast.id :: ids) :: rest)
      (leaves : Leaves { engine with frames := .due ids :: rest } after toast .countdown) :
      Move engine .proceed after
  | handBack (frame : Frame) (rest : List Frame) (top : engine.frames = frame :: rest)
      (idle : frame.isWork = false) : Move engine .handBack { engine with frames := rest }
  /-- A task begins to wait. -/
  | waits (place : Nat) (agenda : Agenda Deed) (idle : engine.frames = [])
      (taken : engine.agenda.TakesUp agenda none) : Move engine (.poll place) { engine with agenda }
  /-- A wait is over that no countdown and no record is there for. -/
  | stale (place : Nat) (agenda : Agenda Deed) (deed : Deed) (idle : engine.frames = [])
      (taken : engine.agenda.TakesUp agenda (some deed))
      (gone : match deed with
        | .expire id generation => engine.countdowns.expire? id generation = none
        | .remove id edition => ∀ toast ∈ engine.store.toasts,
            toast.id = id → toast.edition ≠ edition
        | .errand _ => False) : Move engine (.poll place) { engine with agenda }
  /-- A countdown has run out whose toast is no longer live. -/
  | expireGone (place : Nat) (agenda : Agenda Deed) (id : ToastId) (generation : Nat)
      (countdowns : Countdowns ToastId Unit) (countdown : Countdown ToastId Unit)
      (idle : engine.frames = [])
      (taken : engine.agenda.TakesUp agenda (some (.expire id generation)))
      (expired : engine.countdowns.expire? id generation = some (countdowns, countdown))
      (gone : ∀ toast, engine.get? id = some toast → toast.exiting = true) :
      Move engine (.poll place) { engine with agenda, countdowns }
  | expire (place : Nat) (agenda : Agenda Deed) (toast : Toast) (generation : Nat)
      (countdowns : Countdowns ToastId Unit) (countdown : Countdown ToastId Unit) (after : Engine)
      (idle : engine.frames = [])
      (taken : engine.agenda.TakesUp agenda (some (.expire toast.id generation)))
      (expired : engine.countdowns.expire? toast.id generation = some (countdowns, countdown))
      (leaves : Leaves { engine with agenda, countdowns } after toast .countdown) :
      Move engine (.poll place) after
  /-- The exit window of a record is over. -/
  | remove (place : Nat) (agenda : Agenda Deed) (id : ToastId) (edition : Nat) (after : Engine)
      (idle : engine.frames = [])
      (taken : engine.agenda.TakesUp agenda (some (.remove id edition)))
      (publishes : Publishes { engine with agenda } after
        (engine.store.toasts.filter fun toast =>
          !(decide (toast.id = id) && toast.edition == edition)) []) :
      Move engine (.poll place) after
  | errand (place : Nat) (agenda : Agenda Deed) (ticket : Nat) (idle : engine.frames = [])
      (taken : engine.agenda.TakesUp agenda (some (.errand ticket))) :
      Move engine (.poll place) { engine with agenda, frames := [.caller (.errand ticket)] }
  | pass (moment : Nat) (idle : engine.frames = []) (later : engine.now ≤ moment) :
      Move engine (.pass moment) (engine.advance moment)

theorem arm_shape (engine : Engine) (id : ToastId) (lifespan : Lifespan) :
    ∃ countdowns agenda, engine.arm id lifespan = { engine with countdowns, agenda } := by
  simp only [arm]
  split <;> exact ⟨_, _, rfl⟩

theorem disarm_shape (engine : Engine) (ids : Option (List ToastId)) :
    ∃ countdowns, engine.disarm ids = { engine with countdowns } := by
  cases ids <;> exact ⟨_, rfl⟩

theorem proceed_move (engine : Engine) (frame : Frame) (rest : List Frame)
    (top : engine.frames = frame :: rest) (work : frame.isWork = true) :
    Move engine .proceed engine.step := by
  cases frame with
  | caller call => simp [Frame.isWork] at work
  | returned answer => simp [Frame.isWork] at work
  | publish version snapshot pending =>
      cases pending with
      | nil => simpa [step, top, Engine.work] using Move.published version snapshot [] rest top (.inl rfl)
      | cons listener pending =>
          by_cases current : engine.store.version = version
          · simpa [step, top, Engine.work, current, push] using
              Move.deliver version snapshot listener pending rest top current
          · simpa [step, top, Engine.work, current] using
              Move.published version snapshot _ rest top (.inr current)
  | arm id lifespan => simpa [step, top, Engine.work] using Move.arm id lifespan rest top
  | leave toast cause =>
      cases cause <;> simpa [step, top, Engine.work, push] using Move.leave toast _ rest top
  | farewell toast => simpa [step, top, Engine.work, push] using Move.farewell toast rest top
  | exitWindow toast => simpa [step, top, Engine.work] using Move.exitWindow toast rest top
  | disarm ids => simpa [step, top, Engine.work] using Move.disarm ids rest top
  | due ids =>
      cases ids with
      | nil => simpa [step, top, Engine.work] using Move.dueDone rest top
      | cons id ids =>
          -- The other dismissals go back on the stack before the first one is made.
          have shape : engine.step = (({ engine with frames := .due ids :: rest }.dismiss? id
              .countdown).getD { engine with frames := .due ids :: rest }) := by
            simp [step, top, Engine.work, push]
          rw [shape]
          cases dismissed : dismiss? { engine with frames := .due ids :: rest } id .countdown with
          | none => exact .dueGone id ids rest top fun toast found => dismiss?_none dismissed toast found
          | some after =>
              obtain ⟨toast, rfl, leaves⟩ := dismiss?_some dismissed
              exact .due toast ids rest after top leaves

theorem poll_move (engine after : Engine) (place : Nat) (idle : engine.frames = [])
    (taken : engine.pollAt? place = some after) : Move engine (.poll place) after := by
  simp only [pollAt?, poll?] at taken
  split at taken
  next => cases taken
  next agenda next =>
      cases taken
      exact .waits place agenda idle (Agenda.next?_takesUp _ _ place _ next)
  next agenda deed next =>
      have taken' := Agenda.next?_takesUp _ _ place _ next
      obtain rfl := Option.some.inj taken
      cases deed with
      | expire id generation =>
          simp only [act]
          split
          next countdowns countdown expired =>
              cases dismissed : dismiss? { engine with agenda, countdowns } id .countdown with
              | none =>
                  simp only [Option.getD_none]
                  exact .expireGone place agenda id generation countdowns countdown idle taken'
                    expired fun toast found => dismiss?_none dismissed toast found
              | some after =>
                  obtain ⟨toast, rfl, leaves⟩ := dismiss?_some dismissed
                  exact .expire place agenda toast generation countdowns countdown after idle taken'
                    expired leaves
          next missed => exact .stale place agenda _ idle taken' missed
      | remove id edition =>
          simp only [act]
          split
          next store removed =>
              obtain ⟨rfl, _⟩ := Store.removeWhere?_some removed
              refine .remove place agenda id edition _ idle taken' ?_
              have publishes := publish_publishes { engine with agenda }
                (engine.store.toasts.filter fun toast =>
                  !(decide (toast.id = id) && toast.edition == edition)) []
              simpa [idle] using publishes
          next missed =>
              have spared := Store.removeWhere?_none missed
              refine .stale place agenda _ idle taken' fun toast member same => ?_
              simpa [same] using spared toast member
      | errand ticket =>
          simp only [act, push, idle]
          exact .errand place agenda ticket idle taken'

/-- Every stride of a managed run is one of the moves. -/
theorem Stride.move {engine after : Engine} {event : Event} (stride : Stride engine event after)
    (managed : event.isManaged = true) : Move engine event after := by
  cases stride with
  | request operation turn =>
      obtain ⟨answer, effect⟩ := request_effect engine operation
        (by simpa [Event.isManaged] using managed)
      exact .request operation _ answer turn effect
  | proceed frame rest top work => exact proceed_move engine frame rest top work
  | handBack frame rest top idle =>
      rw [resumeTurn_pops top idle]
      exact .handBack frame rest top idle
  | poll place after idle taken => exact poll_move engine after place idle taken
  | pass moment idle later => exact .pass moment idle later

theorem Effect.settings {engine after : Engine} (effect : Effect engine after) :
    after.settings = engine.settings := by
  cases effect with
  | calm pushed outside steady toasts version countdowns agenda frames => exact steady.settings
  | shows shows =>
      cases shows with
      | revise toast revised options number found live made new publishes =>
          exact publishes.settings
      | append toast options number made new publishes => exact publishes.settings
  | leaves toast leaves => exact leaves.publishes.settings
  | clears position publishes => exact publishes.settings
  | spares position spared same => rw [same]; rfl
  | paints toast painted found made publishes => exact publishes.settings
  | pauses same => rw [same]
  | resumes same => rw [same]

theorem Move.settings {engine after : Engine} {event : Event} (move : Move engine event after) :
    after.settings = engine.settings := by
  cases move with
  | request operation after answer turn effect => exact effect.settings
  | arm id lifespan rest top =>
      obtain ⟨countdowns, agenda, shape⟩ := arm_shape { engine with frames := rest } id lifespan
      rw [shape]
  | disarm ids rest top =>
      obtain ⟨countdowns, shape⟩ := disarm_shape { engine with frames := rest } ids
      rw [shape]
  | due toast ids rest after top leaves => exact leaves.publishes.settings
  | expire place agenda toast generation countdowns countdown after idle taken expired leaves =>
      exact leaves.publishes.settings
  | remove place agenda id edition after idle taken publishes => exact publishes.settings
  | _ => rfl

end Engine

end Toasts

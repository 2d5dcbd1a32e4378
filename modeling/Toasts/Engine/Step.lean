import Toasts.Engine.State

/-!
The steps of the engine: the operations a caller may start in its turn, the engine's own steps, and
the two ways time and waiting work get on while nothing is under way. An operation changes the store
at once, and its answer is settled at once; telling the listeners and everything after it are frames.
-/

namespace Toasts

/-- A write to the store that passes by countdowns and callbacks. -/
inductive StoreWrite where
  | add (toast : Toast)
  /-- Replace the record with this identity by what `change` makes of it. -/
  | update (id : ToastId) (change : Toast → Option Toast)
  | remove (id : ToastId)
  | removeEdition (id : ToastId) (edition : Nat)
  | clear (position : Option Position)

inductive Operation where
  /-- Show a toast; a live toast with the identity asked for is revised instead. -/
  | present (options : Options)
  /-- Revise a live toast and start its countdown again. -/
  | update (id : ToastId) (options : Options)
  /-- Begin the exit of a live toast. -/
  | dismiss (id : ToastId)
  /-- Remove every toast, or those at one position, without exit. -/
  | clear (position : Option Position)
  /-- Report the first paint of a toast. -/
  | markVisible (id : ToastId)
  | setDefaultPosition (position : Position)
  /-- Layer these options under every toast created from now on. -/
  | setDefaultOptions (options : Options)
  /-- Freeze every countdown. -/
  | pause
  /-- Start every frozen countdown again for what was left of it. -/
  | resume
  /-- Track a piece of work with a toast. -/
  | promise (options : PromiseOptions)
  /-- A tracked piece of work has come to something. -/
  | settle (number : Nat) (outcome : Outcome)
  | subscribe (hook : Hook)
  | unsubscribe (number : Nat)
  | click (id : ToastId)
  | write (write : StoreWrite)
  /-- An element of the screen has moved, or gone. -/
  | place (element : String) (bounds : Option Rect)
  /-- Put an errand of the caller on the agenda. -/
  | errand (delay : Span) (ticket : Nat)

namespace Engine

def number (engine : Engine) : Engine × Nat :=
  ({ engine with numbers := engine.numbers + 1 }, engine.numbers + 1)

/-- The engine with a changed store, about to tell the listeners and then do what `frames` say. -/
def publish (engine : Engine) (store : Store) (frames : List Frame) : Engine :=
  let engine := { engine with store }
  engine.push (engine.announcement :: frames)

def revise? (engine : Engine) (id : ToastId) (options : Options) : Option Engine :=
  let (numbered, number) := engine.number
  let revised (toast : Toast) : Toast :=
    toast.revise options engine.settings engine.screen number
  match engine.get? id with
  | none => none
  | some toast =>
      if toast.isLive then
        (engine.store.update? id fun toast => some (revised toast)).map fun store =>
          numbered.publish store [.arm id (revised toast).lifespan]
      else none

def append (engine : Engine) (options : Options) : Engine × ToastId :=
  let (numbered, number) := engine.number
  let toast := Toast.create options engine.defaults engine.settings engine.screen number
  (numbered.publish (engine.store.add toast) [.arm toast.id toast.lifespan], toast.id)

/-- Show a toast: revise the live toast with the identity asked for, or append a new one. -/
def present (engine : Engine) (options : Options) : Engine × ToastId :=
  match options.id with
  | some id =>
      match engine.revise? id options with
      | some revised => (revised, id)
      | none => engine.append options
  | none => engine.append options

def dismiss? (engine : Engine) (id : ToastId) (cause : Cause) : Option Engine :=
  match engine.get? id with
  | none => none
  | some toast =>
      if toast.isLive then
        (engine.store.update? id fun toast => some toast.leave).map fun store =>
          engine.publish store [.leave toast cause]
      else none

/-- The newest live toast at work with this title. -/
def pending? (engine : Engine) (title : Option String) : Option ToastId :=
  (engine.store.toasts.reverse.find? fun toast =>
    toast.isLive && decide (toast.kind = .loading) && toast.title == title).map (·.id)

/-- Track a piece of work: take over the newest live toast at work with the same title unless an
identity is asked for, and show that the work is under way. -/
def track (engine : Engine) (options : PromiseOptions) : Engine × Nat :=
  let loading := options.loading
  let id := loading.id <|> engine.pending? loading.title
  let (engine, number) := engine.number
  let (engine, toast) := engine.present ({ loading with id }).atWork
  ({ engine with promises := ⟨number, toast, options⟩ :: engine.promises }, number)

/-- Settle the toast of a tracked piece of work, if it is live. -/
def settle (engine : Engine) (number : Nat) (outcome : Outcome) : Engine :=
  match engine.promises.find? (·.number = number) with
  | none => engine
  | some tracked =>
      let engine :=
        { engine with promises := engine.promises.filter (·.number ≠ number) }
      (engine.revise? tracked.toast (tracked.options.settled outcome)).getD engine

def write (engine : Engine) : StoreWrite → Engine × Answer
  | .add toast => (engine.publish (engine.store.add toast) [], .done)
  | .update id change => flagged (engine.store.update? id change)
  | .remove id => flagged (engine.store.remove? id)
  | .removeEdition id edition => flagged (engine.store.removeEdition? id edition)
  | .clear position =>
      let ids := engine.store.cleared position
      match engine.store.clear? position with
      | some store => (engine.publish store [], .toasts ids)
      | none => (engine, .toasts ids)
where
  /-- Publish the changed store, or say that nothing has changed. -/
  flagged : Option Store → Engine × Answer
    | some store => (engine.publish store [], .flag true)
    | none => (engine, .flag false)

def orRefuse (engine : Engine) : Option Engine → Engine × Answer
  | some changed => (changed, .flag true)
  | none => (engine, .flag false)

/-- Start an operation. What it still has to do are frames before those of `engine`. -/
def perform (engine : Engine) : Operation → Engine × Answer
  | .present options =>
      let (engine, id) := engine.present options
      (engine, .toast id)
  | .update id options => engine.orRefuse (engine.revise? id options)
  | .dismiss id => engine.orRefuse (engine.dismiss? id .user)
  | .clear position =>
      let ids := engine.store.cleared position
      let rest := Frame.disarm (position.map fun _ => ids)
      match engine.store.clear? position with
      | some store => (engine.publish store [rest], .toasts ids)
      | none => (engine.push [rest], .toasts ids)
  | .markVisible id =>
      engine.orRefuse ((engine.store.update? id Toast.painted?).map fun store =>
        engine.publish store [])
  | .setDefaultPosition position =>
      ({ engine with defaults := { engine.defaults with position } }, .done)
  | .setDefaultOptions options =>
      ({ engine with defaults := { engine.defaults with options } }, .done)
  | .pause => ({ engine with countdowns := engine.countdowns.pause engine.now }, .done)
  | .resume =>
      let resumption := engine.countdowns.resume engine.now
      let engine :=
        { engine with
          countdowns := resumption.countdowns
          agenda := keepVigils engine.agenda resumption.vigils }
      (engine.push [.due (resumption.due.map (·.key))], .done)
  | .promise options =>
      let (engine, number) := engine.track options
      (engine, .promise number)
  | .settle number outcome => (engine.settle number outcome, .outcome outcome)
  | .subscribe hook =>
      let store := engine.store.subscribe hook
      ({ engine with store }, .listener store.subscriptions)
  | .unsubscribe number => ({ engine with store := engine.store.unsubscribe number }, .done)
  | .click id =>
      match (engine.get? id).bind (·.action) with
      | some action => (engine.push [.caller (.clicked action)], .flag true)
      | none => (engine, .flag false)
  | .write write => engine.write write
  | .place element bounds =>
      ({ engine with screen := engine.screen.place element bounds }, .done)
  | .errand delay ticket =>
      ({ engine with agenda := engine.agenda.spawn delay (.errand ticket) }, .done)

/-- Bring the countdown of a toast in step with its lifespan. -/
def arm (engine : Engine) (id : ToastId) (lifespan : Lifespan) : Engine :=
  match lifespan.countdown with
  | none => { engine with countdowns := engine.countdowns.cancel id }
  | some delay =>
      let (countdowns, vigils) := engine.countdowns.schedule id delay () engine.now
      { engine with countdowns, agenda := keepVigils engine.agenda vigils }

def disarm (engine : Engine) (ids : Option (List ToastId)) : Engine :=
  match ids with
  | none => { engine with countdowns := engine.countdowns.cancelAll }
  | some ids => { engine with countdowns := ids.foldl Countdowns.cancel engine.countdowns }

def callback (hook : Option Hook) (call : Hook → Call) : List Frame :=
  match hook with
  | some hook => [.caller (call hook)]
  | none => []

def work (engine : Engine) : Frame → Engine
  | .publish _ _ [] => engine
  | .publish version snapshot (listener :: pending) =>
      -- A newer snapshot has already gone out to everyone.
      if engine.store.version ≠ version then engine
      else engine.push [.caller (.deliver listener snapshot), .publish version snapshot pending]
  | .arm id lifespan => engine.arm id lifespan
  | .leave toast cause =>
      let engine := { engine with countdowns := engine.countdowns.cancel toast.id }
      let closing := match cause with
        | .countdown => callback toast.onAutoClose (.autoClosed · toast)
        | .user => []
      engine.push (closing ++ [.farewell toast])
  | .farewell toast =>
      engine.push (callback toast.onDismiss (.dismissed · toast) ++ [.exitWindow toast])
  | .exitWindow toast =>
      { engine with
        agenda := engine.agenda.spawn engine.settings.exitWindow (.remove toast.id toast.edition) }
  | .disarm ids => engine.disarm ids
  | .due [] => engine
  | .due (id :: ids) =>
      let engine := engine.push [.due ids]
      (engine.dismiss? id .countdown).getD engine
  | .caller _ => engine
  | .returned _ => engine

/-- The engine's next step. In the caller's turn nothing happens. -/
def step (engine : Engine) : Engine :=
  match engine.frames with
  | [] => engine
  | .caller _ :: _ => engine
  | .returned _ :: _ => engine
  | frame :: rest => { engine with frames := rest }.work frame

/-- The caller starts an operation. Its answer is handed back when everything is done. -/
def request (engine : Engine) (operation : Operation) : Engine :=
  let (after, answer) := { engine with frames := [] }.perform operation
  { after with frames := after.frames ++ .returned answer :: engine.frames }

def resumeTurn (engine : Engine) : Engine :=
  match engine.frames with
  | .caller _ :: rest => { engine with frames := rest }
  | .returned _ :: rest => { engine with frames := rest }
  | _ => engine

def act (engine : Engine) : Deed → Engine
  | .expire id generation =>
      match engine.countdowns.expire? id generation with
      | some (countdowns, _) =>
          let engine := { engine with countdowns }
          (engine.dismiss? id .countdown).getD engine
      | none => engine
  | .remove id edition =>
      match engine.store.removeEdition? id edition with
      | some store => engine.publish store []
      | none => engine
  | .errand ticket => engine.push [.caller (.errand ticket)]

/-- While nothing is under way, take up the oldest task of the agenda. -/
def poll? (engine : Engine) : Option Engine :=
  match engine.agenda.next? with
  | none => none
  | some (agenda, none) => some { engine with agenda }
  | some (agenda, some deed) => some ({ engine with agenda }.act deed)

/-- While nothing is under way and nothing is ready, let time pass up to a moment, not beyond the
earliest deadline. -/
def advance (engine : Engine) (moment : Nat) : Engine :=
  { engine with agenda := engine.agenda.advance moment }

end Engine

end Toasts

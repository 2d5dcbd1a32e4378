import Toasts.Session.State

/-!
The acts of a script. An act is begun and either done at once or an operation of the engine, which
completes it with an answer.
-/

namespace Toasts.Session

open Script

def resultOf {α : Type} (result : α → Result) : Option α → Result
  | some value => result value
  | none => .nothing

def ofAnswer : Answer → Result
  | .done => .nothing
  | .flag value => .flag value
  | .toast id => .id id
  | .toasts ids => .ids ids
  | .listener number => .count number
  | .promise number => .count number
  | .outcome outcome => .outcome outcome

def done (session : Session) (result : Result) : Session × Option Result := (session, some result)

def underWay (session : Session) (operation : Operation) : Session × Option Result :=
  (session.request operation, none)

def atOnce (session : Session) (operation : Operation) : Session × Option Result :=
  let (session, answer) := session.perform operation
  (session, some (ofAnswer answer))

/-- Listen under a name in place of whoever listened under it before. -/
def listen (session : Session) (name : String) (script : Hook) (condition : Condition)
    (times : Nat) : Session :=
  let (subscribed, answer) := session.perform (.subscribe script)
  match answer with
  | .listener number =>
      let previous := lookup name session.subscribed
      let added := { subscribed with
        watchers := ⟨number, name, script, condition, times⟩ :: subscribed.watchers
        subscribed := (name, number) :: forget name subscribed.subscribed }
      match previous with
      | some previous => (added.perform (.unsubscribe previous)).1
      | none => added
  | _ => subscribed

/-- Begin an act: either it is done, with a result, or an operation is under way for it. -/
def begin (session : Session) (act : Act) : Session × Option Result :=
  let engine := session.engine
  match act with
  | .note text => (session.write (.note text)).done .nothing
  | .present manner draft _ => session.underWay (.present (manner.apply (session.options draft)))
  | .dismiss id => session.underWay (.dismiss (session.resolve id))
  | .update id draft => session.underWay (.update (session.resolve id) (session.options draft))
  | .markVisible id => session.underWay (.markVisible (session.resolve id))
  | .clear position => session.underWay (.clear position)
  | .setDefaultPosition position => session.atOnce (.setDefaultPosition position)
  | .setDefaultOptions draft => session.atOnce (.setDefaultOptions (session.options draft))
  | .pause => session.atOnce .pause
  | .resume => session.underWay .resume
  | .defaultPosition => session.done (.position engine.defaults.position)
  | .paused => session.done (.flag engine.countdowns.paused)
  | .settings => session.done (.settings engine.settings)
  | .remaining id => session.done (resultOf .span (engine.remaining? (session.resolve id)))
  | .get id | .storeGet id => session.done (resultOf .toast (engine.get? (session.resolve id)))
  | .motion id phase target =>
      session.done (resultOf .motion (engine.motion? (session.resolve id) phase target))
  | .click id => session.underWay (.click (session.resolve id))
  | .moveElement element bounds => session.atOnce (.place element bounds)
  | .subscribe name script condition times =>
      (session.listen name script condition times).done .nothing
  | .unsubscribe name =>
      match lookup name session.subscribed with
      | some number =>
          let (session, _) := session.perform (.unsubscribe number)
          { session with subscribed := forget name session.subscribed }.done (.flag true)
      | none => session.done (.flag false)
  | .saveEdition id name =>
      match engine.get? (session.resolve id) with
      | some toast =>
          { session with editions := (name, toast.edition) :: session.editions }.done
            (.edition toast.edition)
      | none => session.done .nothing
  | .storeAdd draft (position, under) =>
      let (engine, number) := engine.number
      let defaults : Defaults := { position, options := session.options under }
      let toast := Toast.create (session.options draft) defaults engine.settings engine.screen number
      (session.withEngine engine).underWay (.write (.add toast))
  | .storeUpdate id draft exiting lifecycle unchanged =>
      let (engine, number) := engine.number
      let options := session.options draft
      let change (toast : Toast) : Option Toast :=
        if unchanged then none
        else
          let revised := toast.revise options engine.settings engine.screen number
          some { revised with
            exiting := exiting.getD revised.exiting
            lifecycle := lifecycle.getD revised.lifecycle }
      (session.withEngine engine).underWay (.write (.update (session.resolve id) change))
  | .storeRemove id => session.underWay (.write (.remove (session.resolve id)))
  | .storeRemoveEdition id name =>
      match lookup name session.editions with
      | some edition => session.underWay (.write (.removeEdition (session.resolve id) edition))
      | none => session.done (.flag false)
  | .storeClear position => session.underWay (.write (.clear position))
  | .storeLength => session.done (.count engine.store.toasts.length)
  | .storeIsEmpty => session.done (.flag engine.store.toasts.isEmpty)
  | .storeListeners => session.done (.count engine.store.listeners.length)
  | .promise _ loading success error action _ _ _ =>
      session.underWay (.promise {
        loading := session.options loading
        success := session.resolver success
        error := session.resolver error
        action := action.map fun draft => filled (session.options draft) })
  | .abort name =>
      match lookup name session.pledged with
      | some number =>
          { session.progress number .cancelled with pledged := forget name session.pledged }.done
            (.flag true)
      | none => session.done (.flag false)
  | .describe none => session.done (.text (Describe.engine engine))
  | .describe (some name) =>
      session.done (.text (Describe.option Describe.subscription (lookup name session.subscribed)))

def described (session : Session) : Act → Option String
  | .promise _ loading success error action _ _ true =>
      some (Describe.promiseOptions session.naming {
        loading := session.options loading
        success := session.resolver success
        error := session.resolver error
        action := action.map fun draft => filled (session.options draft) })
  | _ => none

def complete (session : Session) (act : Act) (answer : Answer) : Session × Result :=
  match act, answer with
  | .present _ _ (some name), .toast id =>
      ({ session with ids := (name, id) :: session.ids }, .id id)
  | .promise name _ _ _ _ work spawned _, .promise number =>
      let pledge : Pledge := ⟨number, work, if spawned then .spawned else .kept⟩
      let session := { session with
        pledges := pledge :: session.pledges
        pledged := (name, number) :: forget name session.pledged }
      let session :=
        if spawned then (session.perform (.errand (work.after.getD .zero) number)).1 else session
      (session, resultOf .text (session.described act))
  | _, answer => (session, ofAnswer answer)

end Toasts.Session

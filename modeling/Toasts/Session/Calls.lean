import Toasts.Session.Acts

/-!
The engine calls its caller: listeners, callbacks and work that has been waited for. A call is taken
up, its script gets on act by act, and the answers of operations go to whoever asked.
-/

namespace Toasts.Session

open Script Console

/-- Take up a call of the engine: note it, and play the script behind it. -/
def accept (session : Session) (call : Call) : Session :=
  let play (session : Session) (hook : Hook) : Session :=
    { session with calls := .script (session.scripts hook) :: session.calls }
  let stillExiting (toast : Toast) : Option Bool := (session.engine.get? toast.id).map (·.exiting)
  let moment := session.engine.now
  match call with
  | .deliver listener snapshot =>
      match session.watchers.find? (·.number = listener.id) with
      | none => { session with calls := .script [] :: session.calls }
      | some watcher =>
          let session := session.write (.heard watcher.name moment snapshot)
          if watcher.times ≠ 0 && session.holds snapshot watcher.condition then
            play { session with
              watchers := session.watchers.map fun other =>
                if other.number = watcher.number then { other with times := other.times - 1 }
                else other } watcher.script
          else { session with calls := .script [] :: session.calls }
  | .autoClosed hook toast =>
      play (session.write (.called true moment toast (stillExiting toast))) hook
  | .dismissed hook toast =>
      play (session.write (.called false moment toast (stillExiting toast))) hook
  | .clicked action => play (session.write (.clicked action.label)) action.onClick
  | .errand ticket =>
      match session.pledge? ticket with
      | some ⟨_, work, .spawned⟩ =>
          { session with calls := .settling ticket :: session.calls }.request
            (.settle ticket work.outcome)
      | _ => { session with calls := .script [] :: session.calls }

def report (session : Session) (act : Act) (result : Result) : Session :=
  match act with
  | .note _ => session
  | act => session.write (.did act.name result)

def proceed (session : Session) : Session :=
  match session.calls with
  | .script (act :: rest) :: outer =>
      match session.begin act with
      | (session, some result) =>
          { session with calls := .script rest :: outer }.report act result
      | (session, none) => { session with calls := .acting act rest :: outer }
  | _ :: outer => { session with calls := outer }.withEngine session.engine.resumeTurn
  | [] => session.withEngine session.engine.resumeTurn

def addResult (session : Session) (result : Result) : Session :=
  { session with results := session.results ++ [result] }

def settled (session : Session) (number : Nat) : Session :=
  match session.pledge? number with
  | some pledge => session.progress number (.finished pledge.work.outcome)
  | none => session

def receive (session : Session) (answer : Answer) : Session :=
  let session := session.withEngine session.engine.resumeTurn
  match session.calls, session.main with
  | .acting act rest :: outer, _ =>
      let (session, result) := session.complete act answer
      { session with calls := .script rest :: outer }.report act result
  | .settling number :: outer, _ =>
      { session.settled number with calls := .script [] :: outer }
  | [], some (.acting act _) =>
      let (session, result) := session.complete act answer
      { session with main := none }.addResult result
  | [], some (.settling number) =>
      ({ session.settled number with main := none }).addResult (ofAnswer answer)
  | _, _ => session

end Toasts.Session

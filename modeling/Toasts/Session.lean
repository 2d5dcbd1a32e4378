import Toasts.Session.Calls

/-!
The main script is one task among the others: it goes first at every moment it has waited for, and
while it waits the ready work gets done and time passes. A session is a value, and it gets on by
small steps; all it says goes into its log and its observations.
-/

namespace Toasts.Session

open Script Console

def observation (session : Session) (shape : Shape) : Observation :=
  let engine := session.engine
  { moment := engine.now
    result := match shape with
      | .nothing => .nothing
      | .first => session.results.head?.getD .nothing
      | .list => .many session.results
    log := session.log.reverse
    changed := engine.store.version ≠ session.version
    paused := engine.countdowns.paused
    toasts := engine.store.toasts.map fun toast => (toast, engine.remaining? toast.id) }

/-- Wait for a tracked piece of work: in the main script itself if nobody waits for it yet. -/
def await (session : Session) (name : String) : Session :=
  match lookup name session.pledged with
  | none => session.addResult .cancelled
  | some number =>
      let session := { session with pledged := forget name session.pledged }
      match session.pledge? number with
      | some ⟨_, _, .finished outcome⟩ => session.addResult (.outcome outcome)
      | some ⟨_, _, .spawned⟩ => { session with block := some (.pledge number) }
      | some ⟨_, work, .kept⟩ =>
          { session with
            instructions :=
              .sleep (work.after.getD .zero) :: .finish number :: session.instructions }
      | _ => session.addResult .cancelled

def execute (session : Session) (instruction : Instruction) : Session :=
  match instruction with
  | .act act =>
      match session.begin act with
      | (session, some result) => session.addResult result
      | (session, none) => { session with main := some (.acting act []) }
  | .sleep length =>
      { session with block := some (.moment (session.engine.agenda.deadline length)) }
  | .await name => session.await name
  | .finish number =>
      match session.pledge? number with
      | some pledge =>
          { session with main := some (.settling number) }.request
            (.settle number pledge.work.outcome)
      | none => session
  | .rest => { session with block := some .quiet }
  | .detach =>
      match session.stage.easel with
      | some easel => (session.perform (.unsubscribe easel.feed)).1
      | none => session
  | .observe shape =>
      { session with
        observations := session.observation shape :: session.observations
        log := [], results := [], version := session.engine.store.version }

/-- While the main script waits: do what is ready, else let time pass up to the next deadline, not
beyond `limit`. Without either the wait is over. -/
def idle (session : Session) (limit : Option Nat) : Session :=
  match session.engine.poll? with
  | some engine => session.withEngine engine
  | none =>
      match session.engine.agenda.earliest, limit with
      | some earliest, some limit => session.withEngine (session.engine.advance (min earliest limit))
      | some moment, none | none, some moment => session.withEngine (session.engine.advance moment)
      | none, none => { session.addResult .cancelled with block := none }

def wait (session : Session) : Block → Session
  | .moment deadline =>
      if deadline ≤ session.engine.now then { session with block := none }
      else session.idle (some deadline)
  | .quiet =>
      match session.engine.poll? with
      | some engine => session.withEngine engine
      | none => { session with block := none }
  | .pledge number =>
      match session.pledge? number with
      | some ⟨_, _, .finished outcome⟩ =>
          { session.addResult (.outcome outcome) with block := none }
      | some ⟨_, _, .spawned⟩ => session.idle none
      | _ => { session.addResult .cancelled with block := none }

def isOwnCall : Frame → Bool
  | .caller (.errand ticket) => ticket != paintTicket
  | .caller _ => true
  | _ => false

def step (session : Session) : Session :=
  match session.stage.step? with
  | some (stage, none) => { session with stage }
  | some (stage, some picture) => { session with stage }.write (.frame picture)
  | none =>
      match session.engine.turn with
      | .engine => session
      | .caller call =>
          if session.calls.length < session.engine.frames.countP isOwnCall then session.accept call
          else session.proceed
      | .returned answer => session.receive answer
      | .idle =>
          match session.block, session.instructions with
          | some block, _ => session.wait block
          | none, instruction :: rest =>
              { session with instructions := rest }.execute instruction
          | none, [] => session

def isOver (session : Session) : Bool :=
  session.instructions.isEmpty && session.block.isNone && session.engine.frames.isEmpty

def play : Nat → Session → Session
  | 0, session => session
  | steps + 1, session => if session.isOver then session else play steps session.step

end Toasts.Session

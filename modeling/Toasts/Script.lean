import Toasts.Promise
import Toasts.Toast

/-!
Scripts: what a caller does with an engine, written down as data. A script is a list of acts; the
callbacks and listeners it sets up are scripts as well, known by their hooks. The main script is a
list of steps, which may also let time pass.
-/

namespace Toasts.Script

/-- An identity as a script gives it: literally, or as the one stored under a name. -/
inductive Ref where
  | literal (text : String)
  | stored (name : String)
  deriving DecidableEq

structure Draft where
  options : Options := {}
  id : Option Ref := none

/-- A resolver of drafts; one that is computed has the value put in place of each mark. -/
inductive DraftResolver where
  | fixed (draft : Draft)
  | computed (draft : Draft)

inductive Manner where
  | plain
  | ofKind (kind : Kind)
  | atWork

def Manner.apply (manner : Manner) (options : Options) : Options :=
  match manner with
  | .plain => options
  | .ofKind kind => options.ofKind kind
  | .atWork => options.atWork

inductive Condition where
  | always
  /-- The snapshot has this many toasts. -/
  | count (toasts : Nat)
  | has (id : Ref)
  | exiting (id : Ref)

/-- A piece of work to track: it takes some time from when somebody begins to wait for it, and then
comes to something. -/
structure Work where
  after : Option Span
  outcome : Outcome

inductive Act where
  /-- Write a note into the log. -/
  | note (text : String)
  | present (manner : Manner) (draft : Draft) (store : Option String)
  | dismiss (id : Ref)
  | update (id : Ref) (draft : Draft)
  | markVisible (id : Ref)
  | clear (position : Option Position)
  | setDefaultPosition (position : Position)
  | setDefaultOptions (draft : Draft)
  | pause
  | resume
  | defaultPosition
  | paused
  | settings
  | remaining (id : Ref)
  | get (id : Ref)
  | motion (id : Ref) (phase : Phase) (target : Option Rect)
  | click (id : Ref)
  | moveElement (element : String) (bounds : Option Rect)
  /-- Listen under a name; at most so many times the script runs when the condition holds. -/
  | subscribe (name : String) (script : Hook) (condition : Condition) (times : Nat)
  | unsubscribe (name : String)
  | saveEdition (id : Ref) (name : String)
  | storeAdd (draft : Draft) (defaults : Position × Draft)
  /-- Revise a record behind the back of its countdown, or leave it unchanged. -/
  | storeUpdate (id : Ref) (draft : Draft) (exiting : Option Bool) (lifecycle : Option Lifecycle)
      (unchanged : Bool)
  | storeRemove (id : Ref)
  | storeRemoveEdition (id : Ref) (name : String)
  | storeClear (position : Option Position)
  | storeGet (id : Ref)
  | storeLength
  | storeIsEmpty
  | storeListeners
  /-- Track a piece of work under a name. It is waited for as a task of its own, or only when
  somebody awaits it. -/
  | promise (name : String) (loading : Draft) (success error : DraftResolver)
      (action : Option Draft) (work : Work) (spawned : Bool) (described : Bool)
  | abort (name : String)
  /-- Describe the engine, or a subscription by its name. -/
  | describe (subscription : Option String)

def Act.name : Act → String
  | .note _ => "note"
  | .present .plain _ _ => "show"
  | .present (.ofKind kind) _ _ => kind.name
  | .present .atWork _ _ => "loading"
  | .dismiss _ => "dismiss"
  | .update _ _ => "update"
  | .markVisible _ => "mark_visible"
  | .clear _ => "clear"
  | .setDefaultPosition _ => "set_default_position"
  | .setDefaultOptions _ => "set_default_options"
  | .pause => "pause"
  | .resume => "resume"
  | .defaultPosition => "default_position"
  | .paused => "paused"
  | .settings => "settings"
  | .remaining _ => "remaining"
  | .get _ => "get"
  | .motion _ _ _ => "motion"
  | .click _ => "click"
  | .moveElement _ _ => "move_element"
  | .subscribe _ _ _ _ => "subscribe"
  | .unsubscribe _ => "unsubscribe"
  | .saveEdition _ _ => "save_instance"
  | .storeAdd _ _ => "store.add"
  | .storeUpdate _ _ _ _ _ => "store.update"
  | .storeRemove _ => "store.remove"
  | .storeRemoveEdition _ _ => "store.remove_instance"
  | .storeClear _ => "store.clear"
  | .storeGet _ => "store.get"
  | .storeLength => "store.len"
  | .storeIsEmpty => "store.is_empty"
  | .storeListeners => "store.listeners"
  | .promise _ _ _ _ _ _ _ _ => "promise"
  | .abort _ => "abort"
  | .describe _ => "debug"

inductive Result where
  | nothing
  | flag (value : Bool)
  | count (number : Nat)
  | id (id : ToastId)
  | ids (ids : List ToastId)
  | edition (number : Nat)
  | position (position : Position)
  | settings (settings : Settings)
  | span (span : Span)
  | toast (toast : Toast)
  | motion (motion : Motion)
  | text (text : String)
  | outcome (outcome : Outcome)
  | cancelled
  | many (results : List Result)

inductive Shape where
  | nothing
  | first
  | list

inductive Instruction where
  | act (act : Act)
  /-- Let time pass. -/
  | sleep (length : Span)
  /-- Wait for a tracked piece of work. -/
  | await (name : String)
  /-- Settle the tracked piece of work of this number, which the main script itself has waited
  for. -/
  | finish (number : Nat)
  /-- Let all work that is ready get done. -/
  | rest
  /-- End the renderer's subscription. -/
  | detach
  /-- Note the state, with the results since the last note in this shape. -/
  | observe (shape : Shape)

end Toasts.Script

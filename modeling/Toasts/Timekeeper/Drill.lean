import Toasts.Describe
import Toasts.Timekeeper

/-!
Playing scripts on a timekeeper with text keys: the main script lets time pass between its commands,
and every countdown carries a script that is played when it ends.
-/

namespace Toasts.Drill

inductive Command where
  /-- Start a countdown; when it ends, the log names it by its label and the script is played. -/
  | schedule (key : String) (delay : Span) (label : String) (script : List Command)
  | cancel (key : String)
  | cancelAll
  | pause
  | resume
  | has (key : String)
  | remaining (key : String)
  | isPaused
  | length
  | isEmpty
  | describe
  /-- Do away with the timekeeper. -/
  | drop

def Command.name : Command → String
  | .schedule _ _ _ _ => "schedule"
  | .cancel _ => "cancel"
  | .cancelAll => "cancel_all"
  | .pause => "pause"
  | .resume => "resume"
  | .has _ => "has"
  | .remaining _ => "remaining"
  | .isPaused => "is_paused"
  | .length => "len"
  | .isEmpty => "is_empty"
  | .describe => "debug"
  | .drop => "drop"

inductive Result where
  | nothing
  | flag (value : Bool)
  | count (number : Nat)
  | span (span : Span)
  | text (text : String)
  | many (results : List Result)

inductive Entry where
  | fired (label : String) (moment : Nat)
  | did (command : String) (result : Result)

structure Purpose where
  label : String
  script : List Command

inductive Instruction where
  | command (command : Command)
  | sleep (length : Span)
  /-- Let all work that is ready get done. -/
  | rest
  /-- Note the state, with the results as one or as a list. -/
  | observe (asList : Bool)

structure Standing where
  length : Nat
  paused : Bool
  left : List (String × Span)

structure Observation where
  moment : Nat
  result : Result
  log : List Entry
  standing : Option Standing

inductive Block where
  | moment (deadline : Nat)
  | quiet

end Drill

open Drill

structure Drill where
  keeper : Timekeeper String Purpose := {}
  dropped : Bool := false
  /-- Every key there has been a countdown for. -/
  keys : List String := []
  instructions : List Drill.Instruction
  block : Option Drill.Block := none
  /-- The rest of the scripts under way, innermost first. -/
  calls : List (List Command) := []
  log : List Drill.Entry := []
  results : List Drill.Result := []
  observations : List Drill.Observation := []

namespace Drill

def left (drill : Drill) : List (String × Span) :=
  let keys := drill.keys.eraseDups.mergeSort fun first second => decide (first ≤ second)
  keys.filterMap fun key =>
    (drill.keeper.countdowns.remaining? key drill.keeper.now).map (key, ·)

def observation (drill : Drill) (asList : Bool) : Observation where
  moment := drill.keeper.now
  result := if asList then .many drill.results else drill.results.head?.getD .nothing
  log := drill.log.reverse
  standing :=
    if drill.dropped then none
    else some {
      length := drill.keeper.countdowns.entries.length
      paused := drill.keeper.countdowns.paused
      left := drill.left }

/-- Note a command that is done: in the log if a countdown's script has done it, else among the
results of the step. -/
def report (drill : Drill) (command : Command) (result : Result) : Drill :=
  match drill.calls with
  | [] => { drill with results := drill.results ++ [result] }
  | _ => { drill with log := .did command.name result :: drill.log }

def withKeeper (drill : Drill) (keeper : Timekeeper String Purpose) : Drill :=
  { drill with keeper }

/-- Carry out a command. A resumption is reported when its batch is done. -/
def carryOut (drill : Drill) (command : Command) : Drill :=
  let keeper := drill.keeper
  let countdowns := keeper.countdowns
  if drill.dropped then
    match command with
    | .drop => drill.report command (.flag false)
    | _ => drill.report command (.text "dropped")
  else match command with
    | .schedule key delay label script =>
        { drill with
          keeper := keeper.schedule key delay ⟨label, script⟩
          keys := key :: drill.keys }.report command .nothing
    | .cancel key =>
        (drill.withKeeper (keeper.cancel key)).report command (.flag (countdowns.has key))
    | .cancelAll => (drill.withKeeper keeper.cancelAll).report command .nothing
    | .pause => (drill.withKeeper keeper.pause).report command .nothing
    | .resume => drill.withKeeper keeper.resume
    | .has key => drill.report command (.flag (countdowns.has key))
    | .remaining key =>
        drill.report command (match countdowns.remaining? key keeper.now with
          | some span => .span span
          | none => .nothing)
    | .isPaused => drill.report command (.flag countdowns.paused)
    | .length => drill.report command (.count countdowns.entries.length)
    | .isEmpty => drill.report command (.flag countdowns.entries.isEmpty)
    | .describe => drill.report command (.text (Describe.countdowns countdowns))
    | .drop =>
        { drill with keeper := keeper.cancelAll, dropped := true }.report command (.flag true)

def execute (drill : Drill) : Drill.Instruction → Drill
  | .command command => drill.carryOut command
  | .sleep length => { drill with block := some (.moment (drill.keeper.agenda.deadline length)) }
  | .rest => { drill with block := some .quiet }
  | .observe asList =>
      { drill with
        observations := drill.observation asList :: drill.observations
        log := [], results := [] }

def wait (drill : Drill) : Drill.Block → Drill
  | .moment deadline =>
      if deadline ≤ drill.keeper.now then { drill with block := none }
      else match drill.keeper.poll? with
        | some keeper => drill.withKeeper keeper
        | none =>
            let moment := (drill.keeper.agenda.earliest.map (min deadline)).getD deadline
            drill.withKeeper (drill.keeper.advance moment)
  | .quiet =>
      match drill.keeper.poll? with
      | some keeper => drill.withKeeper keeper
      | none => { drill with block := none }

def depth (drill : Drill) : Nat :=
  drill.keeper.frames.countP fun frame => match frame with
    | .action _ => true
    | _ => false

def step (drill : Drill) : Drill :=
  match drill.keeper.frames with
  | .due _ :: _ => drill.withKeeper drill.keeper.step
  | .resumed :: _ => (drill.withKeeper drill.keeper.handBack).report .resume .nothing
  | .action countdown :: _ =>
      if drill.calls.length < drill.depth then
        { drill with
          calls := countdown.action.script :: drill.calls
          log := .fired countdown.action.label drill.keeper.now :: drill.log }
      else match drill.calls with
        | (command :: rest) :: outer => { drill with calls := rest :: outer }.carryOut command
        | _ => { drill with calls := drill.calls.tail }.withKeeper drill.keeper.handBack
  | [] =>
      match drill.block, drill.instructions with
      | some block, _ => drill.wait block
      | none, instruction :: rest => { drill with instructions := rest }.execute instruction
      | none, [] => drill

def isOver (drill : Drill) : Bool :=
  drill.instructions.isEmpty && drill.block.isNone && drill.keeper.frames.isEmpty

def play : Nat → Drill → Drill
  | 0, drill => drill
  | steps + 1, drill => if drill.isOver then drill else play steps drill.step

end Drill

end Toasts

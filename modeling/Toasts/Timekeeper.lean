import Toasts.Countdowns

/-!
Countdowns with a clock: each countdown that ends hands its action to the caller, who may use the
countdowns again while the action runs. As in the engine, the caller's turns are frames, and what is
left of a batch of due countdowns lies below them.
-/

namespace Toasts

inductive TimeFrame (Key Action : Type) where
  /-- Hand out the actions of these countdowns. -/
  | due (batch : List (Countdown Key Action))
  | action (countdown : Countdown Key Action)
  /-- The batch of a resumption is done. -/
  | resumed

structure Timekeeper (Key Action : Type) where
  countdowns : Countdowns Key Action := {}
  agenda : Agenda (Key × Nat) := {}
  frames : List (TimeFrame Key Action) := []

namespace Timekeeper

variable {Key Action : Type} [DecidableEq Key]

def now (keeper : Timekeeper Key Action) : Nat := keeper.agenda.now

def keepVigils (keeper : Timekeeper Key Action) (vigils : List (Vigil Key)) :
    Timekeeper Key Action :=
  { keeper with
    agenda := vigils.foldl
      (fun agenda vigil => agenda.spawn vigil.delay (vigil.key, vigil.generation)) keeper.agenda }

def schedule (keeper : Timekeeper Key Action) (key : Key) (delay : Span) (action : Action) :
    Timekeeper Key Action :=
  let (countdowns, vigils) := keeper.countdowns.schedule key delay action keeper.now
  { keeper with countdowns }.keepVigils vigils

def cancel (keeper : Timekeeper Key Action) (key : Key) : Timekeeper Key Action :=
  { keeper with countdowns := keeper.countdowns.cancel key }

def cancelAll (keeper : Timekeeper Key Action) : Timekeeper Key Action :=
  { keeper with countdowns := keeper.countdowns.cancelAll }

def pause (keeper : Timekeeper Key Action) : Timekeeper Key Action :=
  { keeper with countdowns := keeper.countdowns.pause keeper.now }

/-- Start every frozen countdown again; the actions of those with nothing left come first. -/
def resume (keeper : Timekeeper Key Action) : Timekeeper Key Action :=
  let resumption := keeper.countdowns.resume keeper.now
  let keeper := { keeper with countdowns := resumption.countdowns }.keepVigils resumption.vigils
  { keeper with frames := .due resumption.due :: .resumed :: keeper.frames }

/-- The timekeeper's own step: hand out the next due action. In the caller's turn nothing
happens. -/
def step (keeper : Timekeeper Key Action) : Timekeeper Key Action :=
  match keeper.frames with
  | .due [] :: rest => { keeper with frames := rest }
  | .due (countdown :: batch) :: rest =>
      { keeper with frames := .action countdown :: .due batch :: rest }
  | _ => keeper

def handBack (keeper : Timekeeper Key Action) : Timekeeper Key Action :=
  match keeper.frames with
  | .action _ :: rest => { keeper with frames := rest }
  | .resumed :: rest => { keeper with frames := rest }
  | _ => keeper

def poll? (keeper : Timekeeper Key Action) : Option (Timekeeper Key Action) :=
  match keeper.agenda.next? with
  | none => none
  | some (agenda, none) => some { keeper with agenda }
  | some (agenda, some (key, generation)) =>
      match keeper.countdowns.expire? key generation with
      | some (countdowns, countdown) =>
          some { keeper with agenda, countdowns, frames := .action countdown :: keeper.frames }
      | none => some { keeper with agenda }

def advance (keeper : Timekeeper Key Action) (moment : Nat) : Timekeeper Key Action :=
  { keeper with agenda := keeper.agenda.advance moment }

end Timekeeper

end Toasts

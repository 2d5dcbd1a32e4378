import Toasts.Json.Record
import Toasts.Options

/-!
Reading the engine's values from JSON. Names have to be written exactly; records may be given by
name or by place; a lifespan says what it would rather have been.
-/

namespace Toasts.Decode

/-- A word of a vocabulary: a string with its written name, or an object with that name alone. -/
def word {α : Type} (ofName? : String → Option α) : Json → Option α
  | .string name => ofName? name
  | .object [(name, .null)] => ofName? name
  | _ => none

inductive Fault where
  /-- It is not JSON at all, or has a number out of range. -/
  | malformed
  /-- It is JSON of a shape that is described here. -/
  | shape (found : String)
  /-- It is a text that is no lifespan. -/
  | lifespan (fault : Lifespan.Fault)
  /-- It is a text that is no span. -/
  | span (fault : Span.Fault)

def Fault.message? : Fault → Option String
  | .malformed => none
  | .shape found =>
      some s!"invalid type: {found}, expected milliseconds, a humantime string or \"none\""
  | .lifespan fault => some fault.message
  | .span fault => some fault.message

def Fault.isOverrun : Fault → Bool
  | .lifespan fault => decide (fault.cause = .overrun)
  | .span fault => decide (fault = .overrun)
  | _ => false

/-- A number as a lifespan in milliseconds, as far as 63 bits reach. -/
def lifespanOfNumber : Json.Number → Except Fault Lifespan
  | .natural value => .ok (.ofMillis (min value.toNat (signedBound - 1)))
  | .negative magnitude => .ok (.ofMillis (-magnitude))
  | .float value =>
      let written := Decimal.doubleJson.render (.ofDouble value)
      .error (.shape s!"floating point \x60{written}\x60")

def lifespan : Json → Except Fault Lifespan
  | .null => .error (.shape "null")
  | .bool value =>
      .error (.shape (if value then "boolean \x60true\x60" else "boolean \x60false\x60"))
  | .array _ => .error (.shape "sequence")
  | .object _ => .error (.shape "map")
  | .string text => (Lifespan.parse text).mapError .lifespan
  | .number spelling =>
      match Json.numberValue? spelling with
      | some number => lifespanOfNumber number
      | none => .error .malformed

/-- A lifespan from a text. A value of the wrong shape is refused before what follows is looked
at, and an array or object as soon as it opens. -/
def lifespanText (text : String) : Except Fault Lifespan :=
  match Json.skipSpace text.toList with
  | '[' :: _ => .error (.shape "sequence")
  | '\x7b' :: _ => .error (.shape "map")
  | _ => match Json.readFirst? 0 text with
    | none => .error .malformed
    | some (value, rest) => do
        let read ← lifespan value
        if Json.skipSpace rest = [] then .ok read else .error .malformed

def span : Json → Except Fault Span
  | .number spelling =>
      match Json.numberValue? spelling with
      | some (.natural value) => .ok (.ofMillis value.toNat)
      | some (.negative _) => .error (.shape "negative")
      | some (.float _) => .error (.shape "float")
      | none => .error .malformed
  | .string text => (Span.parse (Text.trim text)).mapError .span
  | _ => .error (.shape "other")

/-- A delay that has not been given before; null gives none. -/
def delay (given : Option (Option Span)) (value : Json) : Except Fault (Option (Option Span)) :=
  match given, value with
  | some _, _ => .error .malformed
  | none, .null => .ok (some none)
  | none, value => (span value).map fun length => some (some length)

/-- The delays that the members of an object give, in their order: until details show, and until
they hide. -/
def delays (members : List (String × Json)) :
    Except Fault (Option (Option Span) × Option (Option Span)) :=
  members.foldlM (fun (expand, collapse) (name, value) =>
    match name with
    | "expand" => return (← delay expand value, collapse)
    | "collapse" => return (expand, ← delay collapse value)
    | _ => return (expand, collapse)) (none, none)

mutual

def inRange : Json → Bool
  | .number spelling => (Json.numberValue? spelling).isSome
  | .array elements => allInRange elements
  | .object members => membersInRange members
  | _ => true

def allInRange : List Json → Bool
  | [] => true
  | value :: rest => inRange value && allInRange rest

def membersInRange : List (String × Json) → Bool
  | [] => true
  | (_, value) :: rest => inRange value && membersInRange rest

end

def autopilot (value : Json) : Except Fault AutopilotRequest :=
  if !inRange value then .error .malformed
  else match value with
    | .bool on => .ok (.switch on)
    | .object members => do
        let (expand, collapse) ← delays members
        return .custom expand.join collapse.join
    | _ => .error (.shape "other")

/-- A wish about the autopilot from a text; what it says is looked at before what follows it. -/
def autopilotText (text : String) : Except Fault AutopilotRequest :=
  match Json.readFirst? Json.usualDepth text with
  | none => .error .malformed
  | some (value, rest) => do
      let read ← autopilot value
      if Json.skipSpace rest = [] then .ok read else .error .malformed

def single : Json → Option Float32
  | .number spelling => (Json.numberValue? spelling).map Json.Number.toSingle
  | _ => none

/-- The numbers of a record with these names: by name from an object, or by place from an array. -/
def singles (names : List String) : Json → Option (List Float32)
  | .array elements =>
      if elements.length = names.length then elements.mapM single else none
  | .object members =>
      names.mapM fun name =>
        match members.filter (·.1 == name) with
        | [(_, value)] => single value
        | _ => none
  | _ => none

/-- The numbers of a record from a text, where other members of an object do not matter. -/
def singlesText (names : List String) (text : String) : Option (List Float32) :=
  (Json.readRecord? names text).bind (singles names)

def rectText (text : String) : Option Rect := do
  match ← singlesText ["x", "y", "width", "height"] text with
  | [x, y, width, height] => some { x, y, width, height }
  | _ => none

def pointText (text : String) : Option Point := do
  match ← singlesText ["x", "y"] text with
  | [x, y] => some { x, y }
  | _ => none

end Toasts.Decode

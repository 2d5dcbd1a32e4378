import Toasts.Console.Picture
import Toasts.Scenario

/-!
The arguments of the console program. An option takes its value from behind an equals sign or from
the next argument, and its value is looked at only when the next option comes or nothing more does.
So an argument that makes no sense is found before a bad value right before it.
-/

namespace Toasts

structure CommandLine where
  config : Option String := none
  scenario : Option Scenario := none
  position : Option Position := none
  lifespan : Option Lifespan := none
  jsonLogs : Bool := false
  logFilter : Option String := none
  format : Option Console.Format := none

namespace CommandLine

inductive Complaint where
  /-- A value is missing, or is none of those to choose from. -/
  | invalidValue
  /-- A value cannot be read. -/
  | valueValidation
  /-- An option is given twice. -/
  | argumentConflict
  /-- An option that takes no value has one. -/
  | tooManyValues
  | unknownArgument
  | displayHelp
  /-- The version is asked for. -/
  | displayVersion
  /-- A written span overruns; whoever reads the arguments stops. -/
  | overrun
  deriving DecidableEq

inductive Field where
  | config
  | scenario
  | position
  | duration
  | logFilter
  | snapshotFormat
  deriving DecidableEq

def Field.ofName? : String → Option Field
  | "config" => some .config
  | "scenario" => some .scenario
  | "position" => some .position
  | "duration" => some .duration
  | "log-filter" => some .logFilter
  | "snapshot-format" => some .snapshotFormat
  | _ => none

inductive Switch where
  | jsonLogs
  | help
  | version
  deriving DecidableEq

def Switch.ofName? : String → Option Switch
  | "json-logs" => some .jsonLogs
  | "help" => some .help
  | "version" => some .version
  | _ => none

def has (line : CommandLine) : Field → Bool
  | .config => line.config.isSome
  | .scenario => line.scenario.isSome
  | .position => line.position.isSome
  | .duration => line.lifespan.isSome
  | .logFilter => line.logFilter.isSome
  | .snapshotFormat => line.format.isSome

def formatOf? : String → Option Console.Format
  | "text" => some .text
  | "json" => some .json
  | _ => none

def give (line : CommandLine) (field : Field) (value : String) : Except Complaint CommandLine :=
  if line.has field then .error .argumentConflict
  else match field with
    | .config => if value = "" then .error .invalidValue else .ok { line with config := value }
    | .scenario => match Scenario.ofName? value with
      | some scenario => .ok { line with scenario }
      | none => .error .invalidValue
    | .position => match Position.parse value with
      | .ok position => .ok { line with position }
      | .error _ => .error .valueValidation
    | .duration => match Lifespan.parse value with
      | .ok lifespan => .ok { line with lifespan }
      | .error fault => .error (if fault.cause = .overrun then .overrun else .valueValidation)
    | .logFilter => .ok { line with logFilter := value }
    | .snapshotFormat => match formatOf? value with
      | some format => .ok { line with format }
      | none => .error .invalidValue

/-- An option whose value has not been looked at, or has not come yet. -/
structure Pending where
  field : Field
  value : Option String := none

def settle (line : CommandLine) : Option Pending → Except Complaint CommandLine
  | none => .ok line
  | some ⟨_, none⟩ => .error .invalidValue
  | some ⟨field, some value⟩ => line.give field value

/-- Refuse an argument whatever the value before it is, unless reading that value stops
everything. -/
def refuse {α : Type} (line : CommandLine) (pending : Option Pending) (complaint : Complaint) :
    Except Complaint α :=
  match line.settle pending with
  | .error .overrun => .error .overrun
  | _ => .error complaint

def turnOn (line : CommandLine) : Switch → Except Complaint CommandLine
  | .jsonLogs =>
      if line.jsonLogs then .error .argumentConflict else .ok { line with jsonLogs := true }
  | .help => .error .displayHelp
  | .version => .error .displayVersion

inductive Argument where
  /-- Nothing after it is an option. -/
  | stop
  /-- A long option, with what stands behind its equals sign. -/
  | long (name : String) (value : Option String)
  /-- A group of short options. -/
  | short (first : Char)
  | plain (text : String)

/-- Tell what an argument is. A lone minus sign is plain. -/
def Argument.of (text : String) : Argument :=
  match text.toList with
  | ['-', '-'] => .stop
  | '-' :: '-' :: rest =>
      let name := rest.takeWhile (· ≠ '=')
      let value := (rest.drop name.length).tail?.map String.ofList
      .long (String.ofList name) value
  | '-' :: first :: _ => .short first
  | _ => .plain text

def takeLong (line : CommandLine) (pending : Option Pending) (name : String)
    (value : Option String) : Except Complaint (CommandLine × Option Pending) :=
  match Field.ofName? name, Switch.ofName? name, value with
  | some field, _, none => do return (← line.settle pending, some { field })
  | some field, _, some value => do return (← (← line.settle pending).give field value, none)
  | none, some switch, none => do return (← (← line.settle pending).turnOn switch, none)
  | none, some _, some _ => line.refuse pending .tooManyValues
  | none, none, _ => line.refuse pending .unknownArgument

def takeShort (line : CommandLine) (pending : Option Pending) (first : Char) :
    Except Complaint CommandLine := do
  match first with
  | 'h' => (← line.settle pending).turnOn .help
  | 'V' => (← line.settle pending).turnOn .version
  | _ => line.refuse pending .unknownArgument

def takeAll (line : CommandLine) (pending : Option Pending) :
    List String → Except Complaint CommandLine
  | [] => line.settle pending
  | text :: rest =>
      match Argument.of text, pending with
      | .stop, pending =>
          if rest = [] then line.settle pending else line.refuse pending .unknownArgument
      | .long name value, pending => do
          let (line, pending) ← line.takeLong pending name value
          line.takeAll pending rest
      | .short first, pending => do (← line.takeShort pending first).takeAll none rest
      | .plain text, some ⟨field, none⟩ => line.takeAll (some ⟨field, some text⟩) rest
      | .plain _, pending => line.refuse pending .unknownArgument

def read (arguments : List String) : Except Complaint CommandLine :=
  takeAll {} none arguments

end CommandLine

end Toasts

import Toasts.Span
import Toasts.Text.Blank

/-!
Spans as people write them: numbers with units, such as "1h 30m" or "2.5s". `render` writes every
non-zero component from years to nanoseconds; `parse` reads any sequence of numbers and units and
adds the parts up, one scanned character at a time.
-/

namespace Toasts.Span

inductive Measure where
  | nanosecond
  | microsecond
  | millisecond
  | second
  | minute
  | hour
  | day
  | week
  | month
  | year
  deriving DecidableEq

namespace Measure

/-- The unit of one of its names; case matters, since "m" is a minute and "M" a month. -/
def ofName? : String → Option Measure
  | "ns" | "nsec" | "nanos" => some .nanosecond
  | "us" | "usec" | "µs" => some .microsecond
  | "ms" | "msec" | "millis" => some .millisecond
  | "s" | "sec" | "secs" | "second" | "seconds" => some .second
  | "m" | "min" | "mins" | "minute" | "minutes" => some .minute
  | "h" | "hr" | "hrs" | "hour" | "hours" => some .hour
  | "d" | "day" | "days" => some .day
  | "w" | "wk" | "wks" | "week" | "weeks" => some .week
  | "M" | "month" | "months" => some .month
  | "y" | "yr" | "yrs" | "year" | "years" => some .year
  | _ => none

def subsecondNanos? : Measure → Option Nat
  | .nanosecond => some 1
  | .microsecond => some 1000
  | .millisecond => some 1000000
  | _ => none

/-- How many seconds one of the unit lasts; nothing for units below a second. A year has 365.25 days,
and a month 30.44. -/
def seconds : Measure → Nat
  | .nanosecond | .microsecond | .millisecond => 0
  | .second => 1
  | .minute => 60
  | .hour => 3600
  | .day => 86400
  | .week => 604800
  | .month => 2630016
  | .year => 31557600

def fractionNanos? : Measure → Option Nat
  | .microsecond => some 1000
  | .millisecond => some 1000000
  | .second => some 1000000000
  | .minute => some 60000000000
  | _ => none

end Measure

/-- Why a text is no span. Places count bytes from the start of the text. -/
inductive Fault where
  /-- There is nothing but blanks. -/
  | empty
  /-- A number has to start here and does not. -/
  | numberExpected (place : Nat)
  /-- This character belongs to no number and no unit. -/
  | invalidCharacter (place : Nat)
  /-- The value does not fit, or is finer than its unit can hold. -/
  | tooLarge
  /-- A number ends the text without its unit. -/
  | unitNeeded (number : Nat)
  | unknownUnit (name : String)
  /-- The nanoseconds of the last part complete a second that a span cannot hold. No message
  answers this one: whoever reads the text stops. -/
  | overrun
  deriving DecidableEq

def measureNames : String :=
  "ns, us/µs, ms, sec, min, hours, days, weeks, months, years"

/-- A number followed by what the fraction after its point adds, as numerator and denominator. -/
structure Amount where
  whole : Nat
  fraction : Option (Nat × Nat) := none

def fits (number : Nat) : Except Fault Nat :=
  if number < unsignedBound then .ok number else .error .tooLarge

/-- Add seconds and nanoseconds to a span. The nanoseconds carry into the seconds when they exceed
a whole second; exactly one second is left to the sum itself. -/
def add (total : Span) (seconds nanos : Nat) : Except Fault Span := do
  let nanos ← fits (total.subsecond + nanos)
  let seconds ← if nanosPerSecond < nanos then fits (seconds + nanos / nanosPerSecond)
    else .ok seconds
  let nanos := if nanosPerSecond < nanos then nanos % nanosPerSecond else nanos
  let seconds ← fits (total.seconds + seconds)
  match ofNanos? (seconds * nanosPerSecond + nanos) with
  | some sum => .ok sum
  | none => .error .overrun

def exactQuotient (number divisor : Nat) : Except Fault Nat :=
  if number % divisor = 0 then .ok (number / divisor) else .error .tooLarge

def addWhole (total : Span) (number : Nat) (measure : Measure) : Except Fault Span :=
  match measure.subsecondNanos? with
  | some nanos => do add total 0 (← fits (number * nanos))
  | none => do add total (← fits (number * measure.seconds)) 0

/-- Add the fraction of an amount: exact to the nanosecond up to minutes, exact to the second from
hours up, and refused when it would need more. Nanoseconds have no fractions. -/
def addFraction (total : Span) (numerator denominator : Nat) (measure : Measure) :
    Except Fault Span :=
  if measure = .nanosecond then .error .tooLarge
  else match measure.fractionNanos? with
    | some nanos => do add total 0 (← exactQuotient (← fits (numerator * nanos)) denominator)
    | none => do add total (← exactQuotient (← fits (numerator * measure.seconds)) denominator) 0

def addPart (total : Span) (amount : Amount) (name : List Char) : Except Fault Span :=
  if name = [] then .error (.unitNeeded amount.whole)
  else match Measure.ofName? (String.ofList name) with
    | none => .error (.unknownUnit (String.ofList name))
    | some measure => do
        let total ← addWhole total amount.whole measure
        match amount.fraction with
        | none => .ok total
        | some (numerator, denominator) => addFraction total numerator denominator measure

inductive Reading where
  /-- Looking for a number since this place; the flag tells whether a part has been read. -/
  | seeking (since : Nat) (started : Bool)
  | whole (number : Nat)
  /-- The digits after a point; a wrong character is reported where the last good one ended. -/
  | fraction (number numerator denominator reported : Nat)
  /-- The letters of a unit, last one first. -/
  | unit (amount : Amount) (letters : List Char)

def isUnitLetter (char : Char) : Bool :=
  ('a' ≤ char && char ≤ 'z') || ('A' ≤ char && char ≤ 'Z') || char == 'µ'

def finish (total : Span) : Reading → Except Fault Span
  | .seeking _ started => if started then .ok total else .error .empty
  | .whole number => addPart total { whole := number } []
  | .fraction number numerator denominator reported =>
      if denominator = 1 then .error (.invalidCharacter reported)
      else addPart total { whole := number, fraction := some (numerator, denominator) } []
  | .unit amount letters => addPart total amount letters.reverse

def take (total : Span) (place next : Nat) (char : Char) : Reading → Except Fault (Span × Reading)
  | .seeking since started =>
      if Text.isDigit char then .ok (total, .whole (Text.digitValue char))
      else if Text.isBlank char then .ok (total, .seeking since started)
      else .error (.numberExpected since)
  | .whole number =>
      if Text.isDigit char then do
        .ok (total, .whole (← fits (number * 10 + Text.digitValue char)))
      else if Text.isBlank char then .ok (total, .whole number)
      else if isUnitLetter char then .ok (total, .unit { whole := number } [char])
      else if char = '.' then .ok (total, .fraction number 0 1 place)
      else .error (.invalidCharacter place)
  | .fraction number numerator denominator reported =>
      if Text.isDigit char then do
        let denominator ← fits (denominator * 10)
        let numerator ← fits (numerator * 10 + Text.digitValue char)
        .ok (total, .fraction number numerator denominator next)
      else if Text.isBlank char then .ok (total, .fraction number numerator denominator next)
      else if isUnitLetter char then
        if denominator = 1 then .error (.invalidCharacter reported)
        else .ok (total, .unit { whole := number, fraction := some (numerator, denominator) } [char])
      else .error (.invalidCharacter reported)
  | .unit amount letters =>
      if Text.isDigit char then do
        .ok (← addPart total amount letters.reverse, .whole (Text.digitValue char))
      else if Text.isBlank char then do
        .ok (← addPart total amount letters.reverse, .seeking next true)
      else if isUnitLetter char then .ok (total, .unit amount (char :: letters))
      else .error (.invalidCharacter place)

def scan : List Char → Nat → Span → Reading → Except Fault Span
  | [], _, total, reading => finish total reading
  | char :: rest, place, total, reading => do
      let (total, reading) ← take total place (place + char.utf8Size) char reading
      scan rest (place + char.utf8Size) total reading

/-- Read a span: exactly "0", or numbers with units. -/
def parse (text : String) : Except Fault Span :=
  if text = "0" then .ok zero else scan text.toList 0 zero (.seeking 0 false)

def Fault.message : Fault → String
  | .empty => "value was empty"
  | .numberExpected place => s!"expected number at {place}"
  | .invalidCharacter place => s!"invalid character at {place}"
  | .tooLarge => "number is too large or cannot be represented without a lack of precision " ++
      "(values below 1ns are not supported)"
  | .unitNeeded number =>
      s!"time unit needed, for example {number}sec or {number}ms"
  | .unknownUnit name =>
      s!"unknown time unit \"{name}\", supported units: {measureNames} (and few variations)"
  | .overrun => "overflow"

/-- The components of a span from years to nanoseconds, each with the name it is written with. -/
def components (span : Span) : List (Nat × String) :=
  let seconds := span.seconds
  let nanos := span.subsecond
  let inYear := seconds % 31557600
  let inMonth := inYear % 2630016
  let inDay := inMonth % 86400
  let plural (count : Nat) (name : String) := (count, if count > 1 then name ++ "s" else name)
  [plural (seconds / 31557600) "year", plural (inYear / 2630016) "month",
    plural (inMonth / 86400) "day", (inDay / 3600, "h"), (inDay % 3600 / 60, "m"),
    (inDay % 60, "s"), (nanos / 1000000, "ms"), (nanos / 1000 % 1000, "us"), (nanos % 1000, "ns")]

def render (span : Span) : String :=
  if span.isZero then "0s"
  else " ".intercalate ((span.components.filter (·.1 ≠ 0)).map fun part => s!"{part.1}{part.2}")

end Toasts.Span

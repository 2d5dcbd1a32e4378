import Toasts.LogFilter.Verbosity
import Toasts.Text.Alphanumeric

/-!
Directives of a filter, such as "info", "target=debug" or "target[span]=trace". The blanks around a
directive are left out when its marks are looked for, but not when it is cut at them: the cuts are
made as many bytes from its start. So blanks in front shift what is cut out, and a wide blank may
leave a cut within a character, where reading stops for good.
-/

namespace Toasts

/-- How much is reported of one target, of one span within it, or of all. -/
structure Directive where
  target : Option String := none
  span : Option String := none
  level : Verbosity := .trace
  deriving DecidableEq

namespace Directive

inductive Fault where
  | malformed
  /-- A cut falls within a character. -/
  | overrun
  deriving DecidableEq

def cut? : Nat → List Char → Option (List Char × List Char)
  | 0, chars => some ([], chars)
  | _ + 1, [] => none
  | bytes + 1, char :: rest =>
      if bytes + 1 < char.utf8Size then none
      else (cut? (bytes + 1 - char.utf8Size) rest).map fun (before, behind) =>
        (char :: before, behind)

def bytes (chars : List Char) : Nat := (String.ofList chars).utf8ByteSize

def between (text : List Char) (first last : Nat) : Except Fault String :=
  match cut? last text with
  | some (before, _) => match cut? first before with
    | some (_, inside) => .ok (String.ofList inside)
    | none => .error .overrun
  | none => .error .overrun

/-- The directive with the level that stands in a text from a cut on; without one, everything is
reported. -/
def withLevel (directive : Directive) (text : List Char) (first : Nat) :
    Except Fault Directive := do
  let written ← between text first (bytes text)
  if written = "" then return directive
  else match Verbosity.read? written with
    | some level => return { directive with level }
    | none => .error .malformed

/-- The directive with the span that stands in a text from a cut on, and the level after it. What
remains of the text without the blanks around it is known from there. -/
def withSpan (directive : Directive) (text : List Char) (first : Nat) (remaining : List Char) :
    Except Fault Directive := do
  let name := remaining.takeWhile fun char => char != ']' && char != '\x7b'
  match remaining.drop name.length with
  | ']' :: rest => do
      let last := first + bytes name
      let spanned := { directive with span := ← between text first last }
      match rest with
      | [] => return spanned
      | '=' :: _ => spanned.withLevel text (last + 2)
      | _ => .error .malformed
  | _ => .error .malformed

def startsTarget (char : Char) : Bool :=
  char == '-' || char == ':' || char == '_' || Text.isAlphanumeric char

/-- Read a directive: a level, or a target, a span or both, with or without a level. -/
def read (text : List Char) : Except Fault Directive := do
  let trimmed := Text.trimChars text
  let name := trimmed.takeWhile fun char => char != '=' && char != '['
  let size := bytes name
  match trimmed, trimmed.drop name.length with
  | [], _ => .error .malformed
  | '[' :: rest, _ => withSpan {} text 1 rest
  | first :: _, marked =>
      if !startsTarget first then .error .malformed
      else match marked with
        | [] => match Verbosity.read? (String.ofList text) with
          | some level => return { level }
          | none => return { target := String.ofList text }
        | mark :: rest => do
            let directive : Directive := { target := ← between text 0 size }
            if mark = '=' then directive.withLevel text (size + 1)
            else directive.withSpan text (size + 1) rest

def render (directive : Directive) : String :=
  let span := match directive.span with
    | some span => s!"[{span}]"
    | none => ""
  let place := directive.target.getD "" ++ span
  if directive.target.isSome || directive.span.isSome then s!"{place}={directive.level.name}"
  else directive.level.name

/-- Whether one name stands before another: the longer one, and of two equally long ones the
greater. Any name stands before none. -/
def nameBefore : Option String → Option String → Bool
  | some first, some second =>
      if first.utf8ByteSize = second.utf8ByteSize then second < first
      else second.utf8ByteSize < first.utf8ByteSize
  | some _, none => true
  | none, _ => false

/-- Whether the first directive is looked at before the second. The longer target comes first, then
the one of a span, then the greater target, and then the greater span. -/
def before (first second : Directive) : Bool :=
  let size (name : Option String) : Nat := (name.map fun name => name.utf8ByteSize + 1).getD 0
  if size first.target ≠ size second.target then nameBefore first.target second.target
  else if first.span.isSome ≠ second.span.isSome then first.span.isSome
  else if first.target ≠ second.target then nameBefore first.target second.target
  else first.span.getD "" > second.span.getD ""

/-- The directives with another one at its place, where it replaces one for the same. -/
def insert (directive : Directive) : List Directive → List Directive
  | [] => [directive]
  | other :: rest =>
      if directive.target = other.target ∧ directive.span = other.span then directive :: rest
      else if directive.before other then directive :: other :: rest
      else other :: insert directive rest

end Directive

end Toasts

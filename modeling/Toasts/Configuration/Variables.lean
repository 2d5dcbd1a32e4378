import Toasts.Configuration.Path
import Toasts.Decimal.Nearest

/-!
Environment variables as a source of configuration. A name that starts with "NOTIX__" is a path with
double underscores for points; its text is a truth value or a number if it spells one. Names and
values are taken to be texts, so variables that are no proper text are out of sight here.
-/

namespace Toasts.Configuration

def namedFloat? (name : String) : Option Float :=
  match name with
  | "inf" | "infinity" => some (1.0 / 0.0)
  | "nan" => some (0.0 / 0.0)
  | _ => none

def signOf : List Char → Bool × List Char
  | '-' :: rest => (true, rest)
  | '+' :: rest => (false, rest)
  | rest => (false, rest)

def digits? (chars : List Char) : Option (List Char) :=
  if chars.all Text.isDigit then some chars else none

def power? : List Char → Option Int
  | [] => some 0
  | _ :: rest =>
      let (negative, rest) := signOf rest
      match digits? rest with
      | none | some [] => none
      | some digits =>
          let power : Int := Text.digitsValue digits
          some (if negative then -power else power)

/-- A floating-point number in digits, with or without a point and a power of ten. At least one
digit stands around the point. -/
def spelledFloat? (chars : List Char) : Option Float := do
  let isMantissa (char : Char) : Bool := char != 'e' && char != 'E'
  let mantissa := chars.takeWhile isMantissa
  let power ← power? (chars.dropWhile isMantissa)
  let whole ← digits? (mantissa.takeWhile (· ≠ '.'))
  let fraction ← digits? ((mantissa.dropWhile (· ≠ '.')).drop 1)
  if whole = [] ∧ fraction = [] then none
  else some (Decimal.nearest (.ofDigits whole fraction power))

/-- A floating-point number as people write it: in digits or by name, with or without a sign. -/
def readFloat? (text : String) : Option Float :=
  let (negative, chars) := signOf text.toList
  let magnitude := namedFloat? (Text.lower (String.ofList chars)) <|> spelledFloat? chars
  magnitude.map fun number => if negative then -number else number

def variableValue (text : String) : Tree :=
  match Text.lower text with
  | "true" => .flag true
  | "false" => .flag false
  | _ => match Text.readInt64 text with
    | some number => .whole number
    | none => match readFloat? text with
      | some number => .float number
      | none => .written text

/-- The path that the name of a variable spells, if it is one of ours. Case does not matter. -/
def variablePath? (name : String) : Option String :=
  let lowered := Text.lower name
  if lowered.startsWith "notix__" then
    some (".".intercalate ((String.ofList (lowered.toList.drop 7)).splitOn "__"))
  else none

def Tree.withVariables? (tree : Tree) (environment : List (String × String)) : Option Tree :=
  environment.foldlM (fun tree (name, text) =>
    match variablePath? name with
    | some path => tree.store? path (variableValue text)
    | none => some tree) tree

end Toasts.Configuration

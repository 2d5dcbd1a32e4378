import Toasts.Json.Reader

/-!
Reading records: objects of which only some members are wanted. The others are passed over, nested
however deep; they have to follow the grammar, but what their strings and numbers would stand for is
not looked at.
-/

namespace Toasts.Json

/-- What follows a string, after its opening quote. An escape needs its digits and nothing else. -/
def passString : List Char → Option (List Char)
  | '"' :: rest => some rest
  | '\\' :: 'u' :: a :: b :: c :: d :: rest =>
      if (hexUnit? a b c d).isSome then passString rest else none
  | '\\' :: escape :: rest => if (shortEscape? escape).isSome then passString rest else none
  | char :: rest => if char.toNat < 0x20 ∨ char = '\\' then none else passString rest
  | [] => none

def passName (chars : List Char) : Option (List Char) :=
  match skipSpace chars with
  | '"' :: rest => match (passString rest).map skipSpace with
    | some (':' :: rest) => some rest
    | _ => none
  | _ => none

inductive Enclosure where
  | array
  | object
  deriving DecidableEq

inductive Passage where
  /-- A value comes next. -/
  | before
  /-- A value has just ended. -/
  | behind

/-- What follows a value and everything that encloses it, innermost enclosure first. The number
bounds the work; one more than twice the length of the text is enough. -/
def passOver : Nat → Passage → List Enclosure → List Char → Option (List Char)
  | 0, _, _, _ => none
  | _, .behind, [], chars => some chars
  | work + 1, .behind, enclosure :: outer, chars =>
      match skipSpace chars, enclosure with
      | ']' :: rest, .array | '\x7d' :: rest, .object => passOver work .behind outer rest
      | ',' :: rest, .array => passOver work .before (.array :: outer) rest
      | ',' :: rest, .object => match passName rest with
        | some rest => passOver work .before (.object :: outer) rest
        | none => none
      | _, _ => none
  | work + 1, .before, around, chars =>
      match skipSpace chars with
      | '[' :: rest => match skipSpace rest with
        | ']' :: rest => passOver work .behind around rest
        | rest => passOver work .before (.array :: around) rest
      | '\x7b' :: rest => match skipSpace rest with
        | '\x7d' :: rest => passOver work .behind around rest
        | rest => match passName rest with
          | some rest => passOver work .before (.object :: around) rest
          | none => none
      | chars =>
          let ended := match chars with
            | '"' :: rest => passString rest
            | 't' :: rest => afterWord? "rue" rest
            | 'f' :: rest => afterWord? "alse" rest
            | 'n' :: rest => afterWord? "ull" rest
            | chars => (Numeral.read chars).map (·.2)
          match ended with
          | some rest => passOver work .behind around rest
          | none => none

/-- The value that a text starts with if it is wanted; it may not be nested. One that is not wanted
is passed over. -/
def wantedValue? (isWanted : Bool) (chars : List Char) : Option (Option Json × List Char) :=
  let work := 2 * chars.length + 1
  if isWanted then (readValue work 0 chars).map fun (value, rest) => (some value, rest)
  else (passOver work .before [] chars).map fun rest => (none, rest)

/-- The wanted members of an object after its opening brace, in their order, and what follows the
object. The number bounds the work; the length of the text is enough. -/
def readWanted (names : List String) : Nat → List Char → Option (List (String × Json) × List Char)
  | 0, _ => none
  | work + 1, chars => do
      match skipSpace chars with
      | '"' :: rest =>
          let (name, rest) ← readString rest []
          match skipSpace rest with
          | ':' :: rest =>
              let (value, rest) ← wantedValue? (names.contains name) rest
              let taken := (value.map fun value => (name, value)).toList
              match skipSpace rest with
              | ',' :: rest =>
                  let (members, rest) ← readWanted names work rest
                  return (taken ++ members, rest)
              | '\x7d' :: rest => return (taken, rest)
              | _ => none
          | _ => none
      | _ => none

/-- Read a text that is one record and nothing else: an object with the wanted members among others,
or an array. -/
def readRecord? (names : List String) (text : String) : Option Json :=
  match skipSpace text.toList with
  | '\x7b' :: rest => do
      let (members, rest) ← match skipSpace rest with
        | '\x7d' :: rest => some ([], rest)
        | rest => readWanted names rest.length rest
      if skipSpace rest = [] then return .object members else none
  | _ => readNested? 1 text

end Toasts.Json

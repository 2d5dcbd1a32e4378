import Toasts.Json.Number
import Toasts.Json.Value

/-!
Reading JSON text. The reader takes exactly the standard's grammar: no control characters inside
strings, no lone surrogates, no leading zeros, nothing after the value. Nesting is bounded.
-/

namespace Toasts.Json

def isSpace (char : Char) : Bool :=
  char == ' ' || char == '\n' || char == '\t' || char == '\r'

def skipSpace (chars : List Char) : List Char := chars.dropWhile isSpace

def hexValue? (char : Char) : Option Nat :=
  if '0' ≤ char ∧ char ≤ '9' then some (char.toNat - '0'.toNat)
  else if 'a' ≤ char ∧ char ≤ 'f' then some (char.toNat - 'a'.toNat + 10)
  else if 'A' ≤ char ∧ char ≤ 'F' then some (char.toNat - 'A'.toNat + 10)
  else none

def hexUnit? (a b c d : Char) : Option Nat := do
  return (((← hexValue? a) * 16 + (← hexValue? b)) * 16 + (← hexValue? c)) * 16 + (← hexValue? d)

def shortEscape? : Char → Option Char
  | '"' => some '"'
  | '\\' => some '\\'
  | '/' => some '/'
  | 'b' => some '\x08'
  | 'f' => some '\x0c'
  | 'n' => some '\n'
  | 'r' => some '\r'
  | 't' => some '\t'
  | _ => none

/-- The characters of a string up to its closing quote, last one first in `taken`, and what follows
the quote. -/
def readString : List Char → List Char → Option (String × List Char)
  | '"' :: rest, taken => some (String.ofList taken.reverse, rest)
  | '\\' :: 'u' :: a :: b :: c :: d :: rest, taken => do
      let unit ← hexUnit? a b c d
      if 0xD800 ≤ unit ∧ unit < 0xDC00 then
        match rest with
        | '\\' :: 'u' :: e :: f :: g :: h :: rest =>
            let low ← hexUnit? e f g h
            if 0xDC00 ≤ low ∧ low < 0xE000 then
              let code := 0x10000 + (unit - 0xD800) * 0x400 + (low - 0xDC00)
              readString rest (Char.ofNat code :: taken)
            else none
        | _ => none
      else if 0xDC00 ≤ unit ∧ unit < 0xE000 then none
      else readString rest (Char.ofNat unit :: taken)
  | '\\' :: escape :: rest, taken => do readString rest ((← shortEscape? escape) :: taken)
  | char :: rest, taken =>
      if char.toNat < 0x20 ∨ char = '\\' then none else readString rest (char :: taken)
  | [], _ => none

def afterWord? (word : String) (chars : List Char) : Option (List Char) :=
  if chars.take word.length = word.toList then some (chars.drop word.length) else none

mutual

/-- Read one value with at most `depth` levels of nesting. The first number bounds the work; the
length of the text is enough. -/
def readValue : Nat → Nat → List Char → Option (Json × List Char)
  | 0, _, _ => none
  | work + 1, depth, chars =>
      match skipSpace chars with
      | '"' :: rest => do
          let (text, rest) ← readString rest []
          return (.string text, rest)
      | '[' :: rest =>
          if depth = 0 then none
          else match skipSpace rest with
            | ']' :: rest => some (.array [], rest)
            | rest => do
                let (elements, rest) ← readElements work (depth - 1) rest
                return (.array elements, rest)
      | '\x7b' :: rest =>
          if depth = 0 then none
          else match skipSpace rest with
            | '\x7d' :: rest => some (.object [], rest)
            | rest => do
                let (members, rest) ← readMembers work (depth - 1) rest
                return (.object members, rest)
      | 't' :: rest => (afterWord? "rue" rest).map (Json.bool true, ·)
      | 'f' :: rest => (afterWord? "alse" rest).map (Json.bool false, ·)
      | 'n' :: rest => (afterWord? "ull" rest).map (Json.null, ·)
      | chars => do
          let (_, rest) ← Numeral.read chars
          return (.number (String.ofList (chars.take (chars.length - rest.length))), rest)

def readElements : Nat → Nat → List Char → Option (List Json × List Char)
  | 0, _, _ => none
  | work + 1, depth, chars => do
      let (value, rest) ← readValue work depth chars
      match skipSpace rest with
      | ',' :: rest => do
          let (values, rest) ← readElements work depth rest
          return (value :: values, rest)
      | ']' :: rest => return ([value], rest)
      | _ => none

def readMembers : Nat → Nat → List Char → Option (List (String × Json) × List Char)
  | 0, _, _ => none
  | work + 1, depth, chars =>
      match skipSpace chars with
      | '"' :: rest => do
          let (name, rest) ← readString rest []
          match skipSpace rest with
          | ':' :: rest => do
              let (value, rest) ← readValue work depth rest
              match skipSpace rest with
              | ',' :: rest => do
                  let (members, rest) ← readMembers work depth rest
                  return ((name, value) :: members, rest)
              | '\x7d' :: rest => return ([(name, value)], rest)
              | _ => none
          | _ => none
      | _ => none

end

def readFirst? (depth : Nat) (text : String) : Option (Json × List Char) :=
  readValue (2 * text.length + 2) depth text.toList

def readNested? (depth : Nat) (text : String) : Option Json :=
  match readFirst? depth text with
  | some (value, rest) => if skipSpace rest = [] then some value else none
  | none => none

def usualDepth : Nat := 127

def read? (text : String) : Option Json := readNested? usualDepth text

end Toasts.Json

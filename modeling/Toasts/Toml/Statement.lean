import Toasts.Toml.Document
import Toasts.Toml.Quoted
import Toasts.Toml.Scalar
import Toasts.Toml.TableMoment

/-!
The text of a TOML document as a list of statements: headers and assignments, one a line, with blank
lines and comments between them.
-/

namespace Toasts.Toml

inductive Statement where
  /-- The table that the assignments after it go to. -/
  | header (path : List String) (name : String)
  /-- A new table at the end of an array; the assignments after it go there. -/
  | arrayHeader (path : List String) (name : String)
  | assignment (path : List String) (name : String) (value : Value)

def skipSpace (chars : List Char) : List Char := chars.dropWhile isSpace

/-- The text without the blanks, comments and line ends it starts with, unless one of the comments
holds a character it must not. Within a comment `commented` holds. -/
def skipLines : Bool → List Char → Option (List Char)
  | _, '\n' :: rest => skipLines false rest
  | _, '\r' :: '\n' :: rest => skipLines false rest
  | false, '#' :: rest => skipLines true rest
  | false, char :: rest => if isSpace char then skipLines false rest else some (char :: rest)
  | true, char :: rest => if isPlain char then skipLines true rest else none
  | _, [] => some []

def afterLine? (chars : List Char) : Option (List Char) :=
  let rest := match skipSpace chars with
    | '#' :: rest => rest.dropWhile isPlain
    | rest => rest
  if rest = [] then some []
  else if endsLine rest then some (dropLineEnd rest)
  else none

def isBare (char : Char) : Bool := char.isAlphanum || char == '_' || char == '-'

def keyPart? (chars : List Char) : Option (String × List Char) :=
  match chars with
  | '"' :: _ | '\'' :: _ => shortString? chars
  | chars =>
      let bare := chars.takeWhile isBare
      if bare = [] then none else some (String.ofList bare, chars.dropWhile isBare)

def nesting : Nat := 79

/-- A key of at most so many parts with points between them: the parts before the last, and the
last. -/
def key? : Nat → List Char → Option ((List String × String) × List Char)
  | 0, _ => none
  | parts + 1, chars => do
      let (name, rest) ← keyPart? (skipSpace chars)
      match skipSpace rest with
      | '.' :: rest => do
          let ((path, last), rest) ← key? parts rest
          return ((name :: path, last), rest)
      | rest => return (([], name), rest)

def endsWord (char : Char) : Bool :=
  isSpace char || char == '\n' || char == '\r' || char == ',' || char == ']' || char == '\x7d' ||
    char == '#'

def word (chars : List Char) : List Char × List Char :=
  (chars.takeWhile (!endsWord ·), chars.dropWhile (!endsWord ·))

/-- The value of the bare word at the start of a text. A date may have its time after a blank. -/
def bareValue? (chars : List Char) : Option (Value × List Char) :=
  let (first, rest) := word chars
  match scalar? first, date? first, rest with
  | some value, some (date, []), ' ' :: following =>
      let (second, rest') := word following
      match MomentBounds.bare.timeAndOffset? second with
      | some time => some (.moment (date ++ "T" ++ time), rest')
      | none => some (value, rest)
  | some value, _, _ => some (value, rest)
  | none, _, _ => none

mutual

/-- A value nested at most this deep. The first number bounds the work; the length of the text is
enough. -/
def readValue : Nat → Nat → List Char → Option (Value × List Char)
  | 0, _, _ => none
  | work + 1, depth, chars =>
      match chars with
      | '"' :: _ | '\'' :: _ => (string? chars).map fun (text, rest) => (.string text, rest)
      | '[' :: rest => do
          if depth = 0 then none
          let (elements, rest) ← readElements work (depth - 1) rest
          return (.array elements, rest)
      | '\x7b' :: rest => do
          if depth = 0 then none
          match skipSpace rest with
          | '\x7d' :: rest => return (.table [], rest)
          | rest => do
              let (table, rest) ← readMembers work (depth - 1) [] rest
              return (.table (closeAll table), rest)
      | chars => bareValue? chars

def readElements : Nat → Nat → List Char → Option (List Value × List Char)
  | 0, _, _ => none
  | work + 1, depth, chars => do
      match ← skipLines false chars with
      | ']' :: rest => return ([], rest)
      | chars => do
          let (value, rest) ← readValue work depth chars
          match ← skipLines false rest with
          | ',' :: rest => do
              let (values, rest) ← readElements work depth rest
              return (value :: values, rest)
          | ']' :: rest => return ([value], rest)
          | _ => none

def readMembers : Nat → Nat → List (String × Item) → List Char →
    Option (List (String × Item) × List Char)
  | 0, _, _, _ => none
  | work + 1, depth, members, chars => do
      let ((path, name), rest) ← key? nesting chars
      match rest with
      | '=' :: rest => do
          let (value, rest) ← readValue work depth (skipSpace rest)
          let members ← assign path name value members
          match skipSpace rest with
          | ',' :: rest => readMembers work depth members rest
          | '\x7d' :: rest => return (members, rest)
          | _ => none
      | _ => none

end

def readStatement? (chars : List Char) : Option (Statement × List Char) := do
  match chars with
  | '[' :: '[' :: rest =>
      let ((path, name), rest) ← key? nesting rest
      match rest with
      | ']' :: ']' :: rest => return (.arrayHeader path name, ← afterLine? rest)
      | _ => none
  | '[' :: rest =>
      let ((path, name), rest) ← key? nesting rest
      match rest with
      | ']' :: rest => return (.header path name, ← afterLine? rest)
      | _ => none
  | chars =>
      let ((path, name), rest) ← key? nesting chars
      match rest with
      | '=' :: rest =>
          let (value, rest) ← readValue (2 * rest.length + 2) nesting (skipSpace rest)
          return (.assignment path name value, ← afterLine? rest)
      | _ => none

/-- The statements of a text. The number bounds the work; one more than the length of the text is
enough. -/
def statements? : Nat → List Char → Option (List Statement)
  | 0, _ => none
  | work + 1, chars => do
      match ← skipLines false chars with
      | [] => return []
      | chars => do
          let (statement, rest) ← readStatement? chars
          return statement :: (← statements? work rest)

structure Reading where
  place : List String := []
  members : List (String × Item) := []

/-- Take in one statement, unless it says something again that has been said. -/
def Reading.take? (reading : Reading) : Statement → Option Reading
  | .header path name => do
      return ⟨path ++ [name], ← openTable path name reading.members⟩
  | .arrayHeader path name => do
      return ⟨path ++ [name], ← openNext path name reading.members⟩
  | .assignment path name value => do
      return { reading with members := ← assignAt reading.place path name value reading.members }

/-- Read a document: the members of its outermost table, which may not stand for a date or time. One
byte order mark in front does not matter. -/
def read? (text : String) : Option (List (String × Value)) := do
  let chars := match text.toList with
    | '\uFEFF' :: rest => rest
    | chars => chars
  let statements ← statements? (chars.length + 1) chars
  let reading ← statements.foldlM Reading.take? {}
  let members := closeAll reading.members
  if namesMoment members then none else settleMembers members

end Toasts.Toml

import Toasts.Configuration.Tree

/-!
Places in a tree of values, written as a name with points and indices after it, such as
"renderer.queue_bound" or "toasts[0]".
-/

namespace Toasts.Configuration

inductive Step where
  | member (name : String)
  /-- An element of a list, counted from its end if the index is negative. -/
  | element (index : Int)
  deriving DecidableEq

def isNameChar (char : Char) : Bool :=
  char.isAlphanum || char == ' ' || char == '_' || char == '-'

def memberStep? (chars : List Char) : Option (Step × List Char) :=
  let name := chars.takeWhile isNameChar
  if name = [] then none
  else some (.member (Text.lower (String.ofList name)), chars.dropWhile isNameChar)

def elementStep? (chars : List Char) : Option (Step × List Char) :=
  let isSpace (char : Char) : Bool := char == ' ' || char == '\t'
  let chars := chars.dropWhile isSpace
  let negative := chars.head? = some '-'
  let chars := if negative then chars.drop 1 else chars
  let digits := chars.takeWhile Text.isDigit
  let sign := if negative then "-" else ""
  match Text.readInt64 (sign ++ String.ofList digits), chars.dropWhile Text.isDigit with
  | some index, rest => match rest.dropWhile isSpace with
    | ']' :: rest => some (.element index, rest)
    | _ => none
  | none, _ => none

/-- The steps after the first one. The number bounds the work; one more than the length of the text
is enough. -/
def steps? : Nat → List Char → Option (List Step)
  | _, [] => some []
  | 0, _ => none
  | work + 1, '.' :: rest => do
      let (step, rest) ← memberStep? rest
      return step :: (← steps? work rest)
  | work + 1, '[' :: rest => do
      let (step, rest) ← elementStep? rest
      return step :: (← steps? work rest)
  | _, _ => none

/-- The steps that a text spells. A text that spells none is itself a name. -/
def path (text : String) : List Step :=
  let spelled := do
    let (step, rest) ← memberStep? text.toList
    return step :: (← steps? (rest.length + 1) rest)
  spelled.getD [.member (Text.lower text)]

namespace Tree

/-- No list reaches this far: 2³². -/
def reach : Nat := 4294967296

/-- The place that an index stands for in a list of so many elements. A negative index may not lead
beyond the beginning, nor any other beyond all reach. -/
def placeOf? (index : Int) (length : Nat) : Option Nat :=
  if index < 0 then if index.natAbs ≤ length then some (length - index.natAbs) else none
  else if index.toNat < reach then some index.toNat
  else none

/-- The list with another element at a place, passing over places that are not there yet. -/
def setElement (tree : Tree) (place : Nat) (element : Tree) : Tree :=
  let elements := tree.elements
  let reached := elements ++ List.replicate (place + 1 - elements.length) .nothing
  .list (reached.set place element)

/-- What stands somewhere once a value is stored at the end of these steps from there, if they lead
anywhere. An element of a list is replaced as a whole. -/
def stored? (value : Tree) : List Step → Option Tree → Option Tree
  | [], under => some (laid value under)
  | .member name :: steps, under => do
      let tree := under.getD .nothing
      return tree.set name (← stored? value steps (tree.get? name))
  | [.element index], under => do
      let tree := under.getD .nothing
      return tree.setElement (← placeOf? index tree.elements.length) value
  | .element index :: steps, under => do
      let tree := under.getD .nothing
      let place ← placeOf? index tree.elements.length
      return tree.setElement place (← stored? value steps tree.elements[place]?)

def store? (tree : Tree) (written : String) (value : Tree) : Option Tree :=
  stored? value (path written) (some tree)

end Tree

end Toasts.Configuration

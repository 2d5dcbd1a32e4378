import Toasts.Text.Blank

/-!
Dates and times of TOML. They may stand bare in a document or be the text of a string, and the two
are not held to quite the same bounds; either way only their normal form is kept.
-/

namespace Toasts.Toml

def pair (first second : Char) : Option Nat :=
  if Text.isDigit first && Text.isDigit second then some (Text.digitsValue [first, second])
  else none

def daysIn (year month : Nat) : Nat :=
  if month = 2 then
    if year % 4 = 0 ∧ (year % 100 ≠ 0 ∨ year % 400 = 0) then 29 else 28
  else if month = 4 ∨ month = 6 ∨ month = 9 ∨ month = 11 then 30
  else 31

def padded (width number : Nat) : String :=
  let digits := Nat.toDigits 10 number
  String.ofList (List.replicate (width - digits.length) '0' ++ digits)

def date? : List Char → Option (String × List Char)
  | a :: b :: c :: d :: '-' :: e :: f :: '-' :: g :: h :: rest => do
      let year := (← pair a b) * 100 + (← pair c d)
      let month ← pair e f
      let day ← pair g h
      if 1 ≤ month ∧ month ≤ 12 ∧ 1 ≤ day ∧ day ≤ daysIn year month then
        some (s!"{padded 4 year}-{padded 2 month}-{padded 2 day}", rest)
      else none
  | _ => none

/-- The fraction of a second that may follow; nine digits of it count, and zeros at its end go. -/
def secondFraction : List Char → Option (String × List Char)
  | '.' :: rest =>
      let digits := rest.takeWhile Text.isDigit
      if digits = [] then none
      else
        let kept := ((digits.take 9).reverse.dropWhile (· = '0')).reverse
        let written := if kept = [] then "" else "." ++ String.ofList kept
        some (written, rest.dropWhile Text.isDigit)
  | rest => some ("", rest)

def time? (lastHour : Nat) : List Char → Option (String × List Char)
  | a :: b :: ':' :: c :: d :: ':' :: e :: f :: rest => do
      let hour ← pair a b
      let minute ← pair c d
      let second ← pair e f
      let (fraction, rest) ← secondFraction rest
      if hour ≤ lastHour ∧ minute ≤ 59 ∧ second ≤ 60 then
        some (s!"{padded 2 hour}:{padded 2 minute}:{padded 2 second}{fraction}", rest)
      else none
  | _ => none

/-- The whole of a text as a distance from universal time, in its normal form, or nothing at all.
Whether a number of hours and minutes is a distance depends on where it stands. -/
def offset? (isDistance : Nat → Nat → Bool) : List Char → Option String
  | [] => some ""
  | ['Z'] | ['z'] => some "Z"
  | [sign, a, b, ':', c, d] => do
      let hours ← pair a b
      let minutes ← pair c d
      let distance := hours * 60 + minutes
      let written := s!"{padded 2 (distance / 60)}:{padded 2 (distance % 60)}"
      if !isDistance hours minutes then none
      else if sign = '+' then some ("+" ++ written)
      else if sign = '-' then some ((if distance = 0 then "+" else "-") ++ written)
      else none
  | _ => none

structure MomentBounds where
  lastHour : Nat
  /-- What may stand between a date and its time. -/
  marks : List Char
  isDistance : Nat → Nat → Bool

namespace MomentBounds

def bare : MomentBounds where
  lastHour := 23
  marks := ['T', 't']
  isDistance hours minutes := hours ≤ 23 && minutes ≤ 59

/-- A moment that is the text of a string: a day may end with an hour of its own, and a distance is
a day at most. -/
def quoted : MomentBounds where
  lastHour := 24
  marks := ['T', 't', ' ']
  isDistance hours minutes := hours * 60 + minutes ≤ 1440

def timeAndOffset? (bounds : MomentBounds) (chars : List Char) : Option String := do
  let (time, rest) ← time? bounds.lastHour chars
  return time ++ (← offset? bounds.isDistance rest)

/-- The whole of a text as a date, a time, or both with a mark between them, in normal form. -/
def read? (bounds : MomentBounds) (chars : List Char) : Option String :=
  match date? chars with
  | some (date, []) => some date
  | some (date, mark :: rest) =>
      if mark ∈ bounds.marks then
        (bounds.timeAndOffset? rest).map fun time => date ++ "T" ++ time
      else none
  | none => match time? bounds.lastHour chars with
    | some (time, []) => some time
    | _ => none

end MomentBounds

end Toasts.Toml

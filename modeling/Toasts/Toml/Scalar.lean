import Toasts.Decimal.Nearest
import Toasts.Toml.Moment
import Toasts.Toml.Value

/-!
Numbers, truth values, dates and times of TOML: everything that is written as one bare word. A whole
number has to fit 64 bits with its sign; digits alone never make a number with a fraction.
-/

namespace Toasts.Toml

/-- Digits of which any two neighbours may be divided by one underscore; the underscores go. -/
def separated (isDigit : Char → Bool) : List Char → Option (List Char)
  | [] => none
  | [digit] => if isDigit digit then some [digit] else none
  | digit :: '_' :: rest => if isDigit digit then (separated isDigit rest).map (digit :: ·) else none
  | digit :: rest => if isDigit digit then (separated isDigit rest).map (digit :: ·) else none

def digitOf (char : Char) : Nat :=
  if Text.isDigit char then Text.digitValue char
  else if 'a' ≤ char ∧ char ≤ 'f' then char.toNat - 'a'.toNat + 10
  else if 'A' ≤ char ∧ char ≤ 'F' then char.toNat - 'A'.toNat + 10
  else 16

def based (base : Nat) (digits : List Char) : Option Value := do
  let digits ← separated (fun char => digitOf char < base) digits
  let number := digits.foldl (fun total digit => total * base + digitOf digit) 0
  if number < signedBound then some (.integer number) else none

def signed : List Char → Bool × List Char
  | '-' :: rest => (true, rest)
  | '+' :: rest => (false, rest)
  | rest => (false, rest)

/-- The digits of a decimal number before its point: no zero in front of others. -/
def wholeDigits (chars : List Char) : Option (List Char) := do
  let digits ← separated Text.isDigit chars
  if chars.head? = some '0' ∧ chars.length ≠ 1 then none else some digits

def decimal (negative : Bool) (chars : List Char) : Option Value := do
  let number := Text.digitsValue (← wholeDigits chars)
  if negative then if number ≤ signedBound then some (.integer (-(number : Int))) else none
  else if number < signedBound then some (.integer number) else none

/-- A number with a point, a power of ten, or both; it has to be in range at the upper end. -/
def fractional (negative : Bool) (chars : List Char) : Option Value := do
  let isPowerMark (char : Char) : Bool := char == 'e' || char == 'E'
  if chars.all fun char => char != '.' && !isPowerMark char then none
  let mantissa := chars.takeWhile fun char => !isPowerMark char
  let power ← match chars.drop mantissa.length with
    | [] => some 0
    | _ :: rest =>
        let (negative, digits) := signed rest
        (separated Text.isDigit digits).map fun digits =>
          if negative then -(Text.digitsValue digits : Int) else Text.digitsValue digits
  let whole ← wholeDigits (mantissa.takeWhile (· ≠ '.'))
  let fraction ← match mantissa.dropWhile (· ≠ '.') with
    | [] => some []
    | _ :: rest => separated Text.isDigit rest
  let number := Decimal.nearest (.ofDigits whole fraction power)
  if negative then some (.float (-number))
  else if number.isInf then none else some (.float number)

def number? (word : List Char) : Option Value :=
  match word with
  | '0' :: 'x' :: digits => based 16 digits
  | '0' :: 'o' :: digits => based 8 digits
  | '0' :: 'b' :: digits => based 2 digits
  | word =>
      let (negative, rest) := signed word
      if rest = "inf".toList then
        let infinity : Float := 1.0 / 0.0
        some (.float (if negative then -infinity else infinity))
      else if rest = "nan".toList then some (.float (0.0 / 0.0))
      else decimal negative rest <|> fractional negative rest

def scalar? (word : List Char) : Option Value :=
  if word = "true".toList then some (.boolean true)
  else if word = "false".toList then some (.boolean false)
  else (MomentBounds.bare.read? word).map .moment <|> number? word

end Toasts.Toml

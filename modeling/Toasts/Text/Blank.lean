import Toasts.Bounds

/-!
Blank characters, trimming and letter case. Blank means white space as Unicode defines it; case is
folded for the twenty-six ASCII letters only, so every other character keeps its spelling.
-/

namespace Toasts.Text

/-- A white-space character: the ASCII blanks, the two blanks of Latin-1 and the wide spaces. -/
def isBlank (char : Char) : Bool :=
  let code := char.toNat
  (9 ≤ code && code ≤ 13) || code == 0x20 || code == 0x85 || code == 0xA0 || code == 0x1680 ||
    (0x2000 ≤ code && code ≤ 0x200A) || code == 0x2028 || code == 0x2029 || code == 0x202F ||
    code == 0x205F || code == 0x3000

def trimChars (chars : List Char) : List Char :=
  ((chars.dropWhile isBlank).reverse.dropWhile isBlank).reverse

def trim (text : String) : String :=
  String.ofList (trimChars text.toList)

def lower (text : String) : String :=
  String.ofList (text.toList.map Char.toLower)

def isDigit (char : Char) : Bool :=
  '0' ≤ char && char ≤ '9'

def digitValue (char : Char) : Nat :=
  char.toNat - '0'.toNat

def digitsValue (digits : List Char) : Nat :=
  digits.foldl (fun total digit => total * 10 + digitValue digit) 0

/-- A whole number within 64 signed bits: a sign is optional, and nothing stands around it. -/
def readInt64 (text : String) : Option Int :=
  let magnitude (digits : List Char) : Option Nat :=
    if digits ≠ [] ∧ digits.all isDigit then some (digitsValue digits) else none
  let positive (digits : List Char) : Option Int :=
    (magnitude digits).bind fun n => if n < signedBound then some (n : Int) else none
  match text.toList with
  | '-' :: digits =>
      (magnitude digits).bind fun n => if n ≤ signedBound then some (-(n : Int)) else none
  | '+' :: digits => positive digits
  | digits => positive digits

end Toasts.Text

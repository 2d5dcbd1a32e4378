import Toasts.Json.Reader

/-!
Strings of TOML: in double quotes with escapes, in single quotes as they are, and both also over
several lines between three quotes.
-/

namespace Toasts.Toml

def isPlain (char : Char) : Bool :=
  char == '\t' || (0x20 ≤ char.toNat && char.toNat != 0x7F)

def isSpace (char : Char) : Bool := char == ' ' || char == '\t'

def letterEscape? : Char → Option Char
  | '"' => some '"'
  | '\\' => some '\\'
  | 'b' => some '\x08'
  | 'f' => some '\x0c'
  | 'n' => some '\n'
  | 'r' => some '\r'
  | 't' => some '\t'
  | _ => none

def character? (code : Nat) : Option Char :=
  if code < 0xD800 ∨ (0xE000 ≤ code ∧ code < 0x110000) then some (Char.ofNat code) else none

/-- The characters of a string up to its double quote, last one first in `taken`, and what follows
the quote. -/
def readBasic : List Char → List Char → Option (String × List Char)
  | '"' :: rest, taken => some (String.ofList taken.reverse, rest)
  | '\\' :: 'u' :: a :: b :: c :: d :: rest, taken => do
      readBasic rest ((← character? (← Json.hexUnit? a b c d)) :: taken)
  | '\\' :: 'U' :: a :: b :: c :: d :: e :: f :: g :: h :: rest, taken => do
      let code := (← Json.hexUnit? a b c d) * 0x10000 + (← Json.hexUnit? e f g h)
      readBasic rest ((← character? code) :: taken)
  | '\\' :: letter :: rest, taken => do readBasic rest ((← letterEscape? letter) :: taken)
  | char :: rest, taken =>
      if isPlain char && char != '\\' then readBasic rest (char :: taken) else none
  | [], _ => none

def endsLine : List Char → Bool
  | '\n' :: _ => true
  | '\r' :: '\n' :: _ => true
  | _ => false

/-- The text of a string that ends with three or more quotes, of which two may belong to it, and
what follows it. -/
def closeLong (quote : Char) (taken rest : List Char) : String × List Char :=
  let own := (rest.take 2).takeWhile (· = quote)
  (String.ofList (taken.reverse ++ own), rest.drop own.length)

/-- The characters of a string up to its three double quotes. A backslash at the end of a line
takes all blanks and line ends after it away; while that goes on, `skipping` holds. -/
def readLongBasic : Bool → List Char → List Char → Option (String × List Char)
  | _, '"' :: '"' :: '"' :: rest, taken => some (closeLong '"' taken rest)
  | _, '\\' :: 'u' :: a :: b :: c :: d :: rest, taken => do
      readLongBasic false rest ((← character? (← Json.hexUnit? a b c d)) :: taken)
  | _, '\\' :: 'U' :: a :: b :: c :: d :: e :: f :: g :: h :: rest, taken => do
      let code := (← Json.hexUnit? a b c d) * 0x10000 + (← Json.hexUnit? e f g h)
      readLongBasic false rest ((← character? code) :: taken)
  | _, '\\' :: letter :: rest, taken =>
      if endsLine ((letter :: rest).dropWhile isSpace) then readLongBasic true (letter :: rest) taken
      else do readLongBasic false rest ((← letterEscape? letter) :: taken)
  | skipping, '\r' :: '\n' :: rest, taken =>
      readLongBasic skipping rest (if skipping then taken else '\n' :: taken)
  | skipping, char :: rest, taken =>
      if skipping && (isSpace char || char == '\n') then readLongBasic true rest taken
      else if char == '\n' || (isPlain char && char != '\\') then
        readLongBasic false rest (char :: taken)
      else none
  | _, [], _ => none

def readLongLiteral : List Char → List Char → Option (String × List Char)
  | '\'' :: '\'' :: '\'' :: rest, taken => some (closeLong '\'' taken rest)
  | '\r' :: '\n' :: rest, taken => readLongLiteral rest ('\n' :: taken)
  | char :: rest, taken =>
      if char == '\n' || isPlain char then readLongLiteral rest (char :: taken) else none
  | [], _ => none

def readLiteral (chars : List Char) : Option (String × List Char) :=
  let isOwn (char : Char) : Bool := isPlain char && char != '\''
  match chars.dropWhile isOwn with
  | '\'' :: rest => some (String.ofList (chars.takeWhile isOwn), rest)
  | _ => none

def dropLineEnd : List Char → List Char
  | '\n' :: rest => rest
  | '\r' :: '\n' :: rest => rest
  | rest => rest

def shortString? : List Char → Option (String × List Char)
  | '"' :: rest => readBasic rest []
  | '\'' :: rest => readLiteral rest
  | _ => none

def string? : List Char → Option (String × List Char)
  | '"' :: '"' :: '"' :: rest => readLongBasic false (dropLineEnd rest) []
  | '\'' :: '\'' :: '\'' :: rest => readLongLiteral (dropLineEnd rest) []
  | chars => shortString? chars

end Toasts.Toml

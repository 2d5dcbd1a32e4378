import Toasts.Decimal.Layout

/-!
JSON values and their compact text. A number keeps the spelling it was read or is to be written
with; an object keeps the order of its members.
-/

namespace Toasts

inductive Json where
  | null
  | bool (value : Bool)
  | number (spelling : String)
  | string (text : String)
  | array (elements : List Json)
  | object (members : List (String × Json))

namespace Json

instance : Inhabited Json := ⟨.null⟩

/-- One character of a JSON string: quotes, backslashes and controls are escaped, nothing else. -/
def escaped (char : Char) : List Char :=
  match char with
  | '"' => ['\\', '"']
  | '\\' => ['\\', '\\']
  | '\x08' => ['\\', 'b']
  | '\x0c' => ['\\', 'f']
  | '\n' => ['\\', 'n']
  | '\r' => ['\\', 'r']
  | '\t' => ['\\', 't']
  | char =>
      if char.toNat < 0x20 then
        let digits := Nat.toDigits 16 char.toNat
        ['\\', 'u'] ++ List.replicate (4 - digits.length) '0' ++ digits
      else [char]

def quote (text : String) : String :=
  String.ofList ('"' :: text.toList.flatMap escaped ++ ['"'])

mutual

def render : Json → String
  | .null => "null"
  | .bool value => if value then "true" else "false"
  | .number spelling => spelling
  | .string text => quote text
  | .array elements => "[" ++ ",".intercalate (renderAll elements) ++ "]"
  | .object members => "\x7b" ++ ",".intercalate (renderMembers members) ++ "\x7d"

def renderAll : List Json → List String
  | [] => []
  | value :: rest => render value :: renderAll rest

def renderMembers : List (String × Json) → List String
  | [] => []
  | (name, value) :: rest => (quote name ++ ":" ++ render value) :: renderMembers rest

end

def ofNat (number : Nat) : Json := .number (toString number)

def ofText? : Option String → Json
  | some text => .string text
  | none => .null

def ofSingle (number : Float32) : Json :=
  if number.isFinite then .number (Decimal.singleJson.render (.ofSingle number)) else .null

/-- The last member of an object with this name, unless it is null. -/
def member? (value : Json) (name : String) : Option Json :=
  match value with
  | .object members => match members.reverse.find? (·.1 == name) with
    | some (_, .null) | none => none
    | some (_, found) => some found
  | _ => none

end Json

end Toasts

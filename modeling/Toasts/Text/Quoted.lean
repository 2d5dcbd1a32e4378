import Toasts.Text.Shapeless

/-!
Text in double quotes for diagnostics. Quotes and backslashes are escaped, the common controls have
short escapes, and every other character without a shape is spelled by its code point.
-/

namespace Toasts.Text

def hex (number : Nat) : String := String.ofList (Nat.toDigits 16 number)

def quotedChar (char : Char) : String :=
  match char with
  | '"' => "\\\""
  | '\\' => "\\\\"
  | '\n' => "\\n"
  | '\r' => "\\r"
  | '\t' => "\\t"
  | '\x00' => "\\0"
  | char => if isShapeless char then "\\u\x7b" ++ hex char.toNat ++ "\x7d" else char.toString

def quoted (text : String) : String :=
  text.toList.foldl (fun written char => written ++ quotedChar char) "\"" ++ "\""

end Toasts.Text

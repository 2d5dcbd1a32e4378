/-!
The values that a TOML document gives to its keys. Dates and times are kept as written, in their
normal form.
-/

namespace Toasts.Toml

inductive Value where
  | string (text : String)
  | integer (number : Int)
  | float (number : Float)
  | boolean (value : Bool)
  /-- A date, a time, or both. -/
  | moment (written : String)
  | array (elements : List Value)
  | table (members : List (String × Value))

instance : Inhabited Value := ⟨.boolean false⟩

end Toasts.Toml

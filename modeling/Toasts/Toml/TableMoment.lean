import Toasts.Toml.Moment
import Toasts.Toml.Value

/-!
Tables that stand for a date or time. Such a table has the text of it under a name of its own as its
first member; whatever else is in the table does not matter.
-/

namespace Toasts.Toml

def momentName : String := "$__toml_private_datetime"

def namesMoment (members : List (String × Value)) : Bool :=
  match members with
  | (name, _) :: _ => name == momentName
  | [] => false

def momentOf? : List (String × Value) → Option Value
  | (_, .string text) :: _ => (MomentBounds.quoted.read? text.toList).map .moment
  | _ => none

mutual

/-- The value with every table that stands for a date or time replaced by it, unless one of them
holds none. -/
def settle : Value → Option Value
  | .array elements => (settleEach elements).map .array
  | .table members =>
      if namesMoment members then momentOf? members else (settleMembers members).map .table
  | value => some value

def settleEach : List Value → Option (List Value)
  | [] => some []
  | value :: rest => do return (← settle value) :: (← settleEach rest)

def settleMembers : List (String × Value) → Option (List (String × Value))
  | [] => some []
  | (name, value) :: rest => do return (name, ← settle value) :: (← settleMembers rest)

end

end Toasts.Toml

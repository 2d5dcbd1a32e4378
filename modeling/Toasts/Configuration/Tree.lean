import Toasts.Text.Blank
import Toasts.Toml.Value

/-!
Configuration as a tree of values, put together from sources one value at a time. Names do not
depend on case. Where a table meets a table the two are merged name by name; everywhere else what
comes later takes the place of what was there.
-/

namespace Toasts.Configuration

inductive Tree where
  /-- A place that has been passed over. -/
  | nothing
  | flag (value : Bool)
  | whole (number : Int)
  | float (number : Float)
  | written (text : String)
  | list (elements : List Tree)
  | table (members : List (String × Tree))

namespace Tree

instance : Inhabited Tree := ⟨.nothing⟩

def members : Tree → List (String × Tree)
  | .table members => members
  | _ => []

def elements : Tree → List Tree
  | .list elements => elements
  | _ => []

def get? (tree : Tree) (name : String) : Option Tree :=
  (tree.members.find? (·.1 == name)).map (·.2)

def set (tree : Tree) (name : String) (member : Tree) : Tree :=
  if (tree.get? name).isSome then
    .table (tree.members.map fun entry => if entry.1 == name then (name, member) else entry)
  else .table (tree.members ++ [(name, member)])

mutual

def laid : Tree → Option Tree → Tree
  | .table members, under => laidAll members (under.getD (.table []))
  | value, _ => value

/-- Members laid over a tree, which becomes a table if there are any. -/
def laidAll : List (String × Tree) → Tree → Tree
  | [], tree => tree
  | (name, value) :: rest, tree =>
      laidAll rest (tree.set (Text.lower name) (laid value (tree.get? (Text.lower name))))

end

mutual

/-- The tree of a value of a document. Dates and times are texts here. -/
def ofToml : Toml.Value → Tree
  | .string text | .moment text => .written text
  | .integer number => .whole number
  | .float number => .float number
  | .boolean value => .flag value
  | .array elements => .list (ofEach elements)
  | .table members => .table (ofMembers members)

def ofEach : List Toml.Value → List Tree
  | [] => []
  | value :: rest => ofToml value :: ofEach rest

def ofMembers : List (String × Toml.Value) → List (String × Tree)
  | [] => []
  | (name, value) :: rest => (name, ofToml value) :: ofMembers rest

end

end Tree

end Toasts.Configuration

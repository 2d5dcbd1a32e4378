import Toasts.Toml.Value

/-!
The tables of a TOML document while it is being read. A table may be opened by its header once, and
added to by assignments with pointed keys only as long as nothing else has defined it.
-/

namespace Toasts.Toml

inductive Standing where
  /-- By its own header, or as the outermost table. -/
  | opened
  /-- Passed by the header of a table inside it. -/
  | passed
  /-- By an assignment with a pointed key. -/
  | pointed
  deriving DecidableEq

inductive Item where
  | value (value : Value)
  | table (standing : Standing) (members : List (String × Item))
  /-- An array of tables: the last one, and those before it. -/
  | tables (last : List (String × Item)) (earlier : List (List (String × Item)))

instance : Inhabited Item := ⟨.value default⟩

def find? (name : String) (members : List (String × Item)) : Option Item :=
  (members.find? (·.1 == name)).map (·.2)

def replace (name : String) (item : Item) (members : List (String × Item)) :
    List (String × Item) :=
  members.map fun member => if member.1 == name then (name, item) else member

/-- Change the table at the end of a path. Tables that are not there are made on the way, as a
header or, if `pointed`, as an assignment makes them; an array of tables stands for its last
one. -/
def changeAt (pointed : Bool)
    (change : Standing → List (String × Item) → Option (List (String × Item))) :
    List String → Standing → List (String × Item) → Option (List (String × Item))
  | [], standing, members => change standing members
  | name :: path, _, members =>
      match find? name members with
      | none => do
          let made := if pointed then Standing.pointed else .passed
          return members ++ [(name, .table made (← changeAt pointed change path made []))]
      | some (.value _) => none
      | some (.tables last earlier) => do
          let changed ← changeAt pointed change path .opened last
          return replace name (.tables changed earlier) members
      | some (.table standing inner) => do
          if pointed ∧ standing = .opened then none
          let changed ← changeAt pointed change path standing inner
          return replace name (.table standing changed) members

/-- Add a value under a name that is still free. A pointed key adds only to tables made by pointed
keys. -/
def addValue (isPointed : Bool) (name : String) (value : Value) (standing : Standing)
    (members : List (String × Item)) : Option (List (String × Item)) :=
  if isPointed ≠ (standing == .pointed) ∨ (find? name members).isSome then none
  else some (members ++ [(name, .value value)])

def assign (path : List String) (name : String) (value : Value) (members : List (String × Item)) :
    Option (List (String × Item)) :=
  changeAt true (addValue (!path.isEmpty) name value) path .opened members

def assignAt (place path : List String) (name : String) (value : Value)
    (members : List (String × Item)) : Option (List (String × Item)) :=
  changeAt false (fun _ => assign path name value) place .opened members

/-- Open a table by its header. One that has only been passed so far moves behind its neighbours. -/
def openTable (path : List String) (name : String) (members : List (String × Item)) :
    Option (List (String × Item)) :=
  let opened (_ : Standing) (members : List (String × Item)) : Option (List (String × Item)) :=
    match find? name members with
    | none => some (members ++ [(name, .table .opened [])])
    | some (.table .passed inner) =>
        some (members.filter (·.1 != name) ++ [(name, .table .opened inner)])
    | some _ => none
  changeAt false opened path .opened members

def openNext (path : List String) (name : String) (members : List (String × Item)) :
    Option (List (String × Item)) :=
  let opened (_ : Standing) (members : List (String × Item)) : Option (List (String × Item)) :=
    match find? name members with
    | none => some (members ++ [(name, .tables [] [])])
    | some (.tables last earlier) => some (replace name (.tables [] (earlier ++ [last])) members)
    | some _ => none
  changeAt false opened path .opened members

mutual

def close : Item → Value
  | .value value => value
  | .table _ members => .table (closeAll members)
  | .tables last earlier => .array (closeEach earlier ++ [.table (closeAll last)])

def closeAll : List (String × Item) → List (String × Value)
  | [] => []
  | (name, item) :: rest => (name, close item) :: closeAll rest

def closeEach : List (List (String × Item)) → List Value
  | [] => []
  | members :: rest => .table (closeAll members) :: closeEach rest

end

end Toasts.Toml

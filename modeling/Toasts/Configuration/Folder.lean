/-!
The files around a configuration, and the paths to them. A path leads from the folder itself, or
from the root, piece by piece; every piece but the last has to lead to a folder, and two points lead
back out of one. Above the folder itself only folders are known.
-/

namespace Toasts.Configuration

/-- A place: the names that lead to it. It begins with "/" if they lead there from the root, and
otherwise with as many ".." as it takes to leave the folder itself. -/
abbrev Place := List String

namespace Place

def moved (place : Place) (piece : String) : Place :=
  match piece, place.getLast? with
  | "", _ | ".", _ => place
  | "..", none => [".."]
  | "..", some ".." => place ++ [".."]
  | "..", some "/" => place
  | "..", some _ => place.dropLast
  | name, _ => place ++ [name]

def start (path : String) : Place := if path.startsWith "/" then ["/"] else []

end Place

/-- Files with their texts, the latest first, and the folders they are in. -/
structure Folder where
  files : List (Place × String) := []
  folders : List Place := []

namespace Folder

def add (folder : Folder) (path text : String) : Folder :=
  let pieces := path.splitOn "/"
  let passed := (List.range pieces.length).map fun count =>
    (pieces.take count).foldl Place.moved (Place.start path)
  { files := (pieces.foldl Place.moved (Place.start path), text) :: folder.files
    folders := passed ++ folder.folders }

def ofFiles (files : List (String × String)) : Folder :=
  files.foldl (fun folder (path, text) => folder.add path text) {}

def isFolder (folder : Folder) (place : Place) : Bool :=
  place.all (· == "..") || place == ["/"] || folder.folders.contains place

def textAt? (folder : Folder) (place : Place) : Option String :=
  (folder.files.find? (·.1 == place)).map (·.2)

def resolve? (folder : Folder) (path : String) : Option Place :=
  if path = "" then none
  else (path.splitOn "/").foldlM (fun place piece =>
    if folder.isFolder place then some (place.moved piece) else none) (Place.start path)

def text? (folder : Folder) (path : String) : Option String :=
  (folder.resolve? path).bind folder.textAt?

def contains (folder : Folder) (path : String) : Bool :=
  match folder.resolve? path with
  | some place => folder.isFolder place || (folder.textAt? place).isSome
  | none => false

/-- What stands after the last point of a name, if anything stands before it. -/
def extension? (name : String) : Option String :=
  match name.splitOn "." with
  | [] | [_] | ["", _] => none
  | pieces => pieces.getLast?

/-- The pieces of a path, the last one first, without those at its end that lead nowhere else. -/
def pieces (path : String) : List String :=
  (path.splitOn "/").reverse.dropWhile fun piece => piece == "" || piece == "."

/-- The path with the extension of a document added to its last name, if it ends in one. -/
def extended? (path : String) : Option String :=
  match pieces path with
  | [] | ".." :: _ => none
  | name :: outer => some ("/".intercalate ((name ++ ".toml") :: outer).reverse)

/-- The text of the document that a path stands for. A file under exactly this path is a document
only if its extension says so; without one, the extension may be left out of the path. -/
def document? (folder : Folder) (path : String) : Option String :=
  match folder.text? path with
  | some text =>
      if (pieces path).head?.bind extension? = some "toml" then some text else none
  | none => (extended? path).bind folder.text?

end Folder

end Toasts.Configuration

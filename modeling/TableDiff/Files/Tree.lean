import TableDiff.Files

/-!
# Trees of files

Files and directories as a value, and how a path leads through them: slashes separate names, empty
names and `.` stay where they are, and `..` leads back.
-/

namespace TableDiff

inductive FileTree where
  | file (bytes : List UInt8)
  | directory (entries : List (String × FileTree))

namespace FileTree

def empty : FileTree := .directory []

/-- The names along a path. -/
def names (path : String) : List String :=
  (path.splitOn "/").filter fun name => name != "" && name != "."

/-- Whether the end of a path says that it leads to a directory. -/
def endsInDirectory (path : String) : Bool :=
  match (path.splitOn "/").getLast? with
  | some last => last == "" || last == "."
  | none => true

/-! ## Building -/

/-- The entry of a name, or an empty directory. -/
def child (name : String) (entries : List (String × FileTree)) : FileTree :=
  (entries.lookup name).getD empty

/-- The entries with another tree at a name. -/
def replace (name : String) (t : FileTree) (entries : List (String × FileTree)) :
    List (String × FileTree) :=
  entries.filter (fun e => e.1 != name) ++ [(name, t)]

/-- The tree with a file at the end of a path; directories on the way are made. -/
def addFile (bytes : List UInt8) : List String → FileTree → FileTree
  | [], _ => .file bytes
  | name :: rest, .directory entries =>
    .directory (replace name (addFile bytes rest (child name entries)) entries)
  | name :: rest, .file _ => .directory [(name, addFile bytes rest empty)]

/-- The tree with a directory at the end of a path. -/
def addDirectory : List String → FileTree → FileTree
  | [], t => t
  | name :: rest, .directory entries =>
    .directory (replace name (addDirectory rest (child name entries)) entries)
  | _ :: _, t => t

/-! ## Looking up -/

/-- The tree at the end of a path; `above` are the directories that lead here, the last one
first. -/
def find (above : List FileTree) : List String → FileTree → Except FileError FileTree
  | [], t => .ok t
  | _ :: _, .file _ => .error .notADirectory
  | name :: rest, .directory entries =>
    if name = ".." then
      match above with
      | [] => find [] rest (.directory entries)
      | t :: above => find above rest t
    else
      match entries.lookup name with
      | none => .error .notFound
      | some t => find (.directory entries :: above) rest t

/-- What a tree is without what lies in its directories. -/
def entry : FileTree → Entry
  | .file bytes => .file bytes
  | .directory entries => .directory (entries.map (·.1))

/-- The files of a tree by their paths. -/
def files (t : FileTree) : Files := fun path =>
  if path = "" then .error .notFound
  else
    match find [] (names path) t with
    | .error e => .error e
    | .ok found =>
      match found.entry with
      | .file bytes => if endsInDirectory path then .error .notADirectory else .ok (.file bytes)
      | e => .ok e

end FileTree

end TableDiff

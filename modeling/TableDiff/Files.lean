/-!
# Files

What is found at paths when they are looked up: a file with its bytes, a directory with the names
in it, or an error.
-/

namespace TableDiff

/-- Why nothing can be read at a path. -/
inductive FileError where
  | notFound
  | notADirectory
  | isADirectory
  | other (message : String)
deriving DecidableEq

def FileError.message : FileError → String
  | .notFound => "No such file or directory (os error 2)"
  | .notADirectory => "Not a directory (os error 20)"
  | .isADirectory => "Is a directory (os error 21)"
  | .other message => message

/-- What is at a path. -/
inductive Entry where
  | file (bytes : List UInt8)
  | directory (names : List String)
deriving DecidableEq

namespace Entry

/-- The bytes of a file. -/
def bytes : Entry → Except FileError (List UInt8)
  | .file bytes => .ok bytes
  | .directory _ => .error .isADirectory

/-- The names in a directory. -/
def names : Entry → Except FileError (List String)
  | .file _ => .error .notADirectory
  | .directory names => .ok names

end Entry

/-- What is at each path. -/
abbrev Files := String → Except FileError Entry

namespace Files

def isFile (files : Files) (path : String) : Bool :=
  match files path with
  | .ok (.file _) => true
  | _ => false

def isDirectory (files : Files) (path : String) : Bool :=
  match files path with
  | .ok (.directory _) => true
  | _ => false

end Files

end TableDiff

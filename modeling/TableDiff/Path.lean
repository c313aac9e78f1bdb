import TableDiff.Text.Case

/-!
# File names

Paths are texts in which slashes separate names. Repeated slashes, slashes at the end and the name
`.` after a slash do not count. A file name consists of a stem and an extension after its last dot;
a dot at the start of the name starts no extension.
-/

namespace TableDiff.Path

/-- A path, last character first, without what does not count at its end. -/
def dropIdle : List Char → List Char
  | '/' :: rest => dropIdle rest
  | '.' :: '/' :: rest => dropIdle rest
  | cs => cs

/-- The last name of a path, unless the path ends in the root, in `.` or in `..`. -/
def fileName? (path : String) : Option (List Char) :=
  let name := ((dropIdle path.toList.reverse).takeWhile (· != '/')).reverse
  if name = [] ∨ name = ['.'] ∨ name = ['.', '.'] then none else some name

/-- The path without its last name. -/
def parent (path : String) : List Char :=
  let cs := path.toList
  let above := (dropIdle cs.reverse).dropWhile (· != '/')
  match dropIdle above with
  | [] => if cs.head? = some '/' then ['/'] else []
  | rest => rest.reverse

/-- The stem of a file name, and its extension if it has one. -/
def splitExtension (name : List Char) : List Char × Option (List Char) :=
  let extension := (name.reverse.takeWhile (· != '.')).reverse
  let stem := name.take (name.length - extension.length - 1)
  if extension.length = name.length ∨ stem = [] then (name, none) else (stem, some extension)

/-- The stem of the last name of a path. -/
def stem? (path : String) : Option String :=
  (fileName? path).map fun name => String.ofList (splitExtension name).1

/-- Whether the last name of a path has an extension, without regard to case. -/
def hasExtension (path wanted : String) : Bool :=
  match (fileName? path).bind fun name => (splitExtension name).2 with
  | some extension => Text.lowerAscii extension == wanted.toList
  | none => false

/-- A name below a directory. -/
def join (directory : List Char) (name : String) : String :=
  let separator :=
    if directory = [] ∨ directory.getLast? = some '/' then [] else ['/']
  String.ofList (directory ++ separator ++ name.toList)

/-- The path of the schema for a table: beside it, and named after its stem. -/
def schemaPath? (path : String) : Option String :=
  (stem? path).map fun stem => join (parent path) (stem ++ ".schema.yaml")

end TableDiff.Path

import TableDiff.Command

/-!
# The program

Looks up the files that a command line names, runs the command on them, and prints its answer.
-/

namespace TableDiff.Command

/-- What an error of the system says about a path. -/
def fileError : IO.Error → FileError
  | .noFileOrDirectory .. => .notFound
  | .inappropriateType .. => .notADirectory
  | e => .other e.toString

/-- Looks up a path. -/
def look (path : String) : IO (Except FileError Entry) := do
  if path = "" then return .error .notFound
  let place := (← IO.currentDir) / path
  try
    if ← place.isDir then
      return .ok (.directory ((← place.readDir).toList.map (·.fileName)))
    else
      return .ok (.file (← IO.FS.readBinFile place).toList)
  catch e => return .error (fileError e)

/-- The paths below a path that loading a table or a dataset looks up. -/
def pathsBelow (path : String) : Except FileError Entry → List String
  | .ok (.directory names) =>
    names.flatMap fun name =>
      let child := Path.join path.toList name
      child :: (Path.schemaPath? child).toList
  | .ok (.file _) => (Path.schemaPath? path).toList
  | .error _ => []

/-- What is at the paths that a request may look up. -/
def snapshot : Request → IO Files
  | .compare args => do
    let mut known : List (String × Except FileError Entry) := []
    for path in [args.expected, args.actual] ++ args.config.toList do
      let entry ← look path
      known := (path, entry) :: known
      for below in pathsBelow path entry do
        known := (below, ← look below) :: known
    let found := known
    return fun path => (found.lookup path).getD (.error .notFound)
  | _ => return fun _ => .error .notFound

end TableDiff.Command

open TableDiff.Command in
/-- Runs a command line. -/
def main (words : List String) : IO UInt32 := do
  match Request.ofWords words with
  | .error e =>
    IO.eprintln ("error: " ++ e.message)
    return usageCode
  | .ok request =>
    let outcome := run (← snapshot request) request
    IO.print outcome.output
    if let some trouble := outcome.trouble then
      IO.eprintln ("error: " ++ trouble.message)
    return outcome.code

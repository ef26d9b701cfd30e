import ODataToSql.CommandLine.Program

/-!
# The executable

Reads the files that the invocation asks about, lets the program work on them, and writes what has
changed.
-/

namespace ODataToSql.Executable

/-- Adds what there is at a path, if there is something. -/
def readPath (files : Files) (path : String) : IO Files := do
  if ← (System.mkFilePath [path]).isDir then
    return ((Files.makeDirectory path).run.run files).2
  try
    let text ← IO.FS.readFile path
    return ((Files.write path text).run.run files).2
  catch _ => return files

/-- Reads what there is at the paths and on the way to them. -/
def readFiles (paths : List String) : IO Files := do
  let mut files := Files.empty
  for path in paths do
    for leading in Path.leadings path do
      files ← readPath files leading
  return files

/-- Makes the directories and writes the files that are new or have changed. -/
def writeChanges (before after : Files) : IO Unit := do
  let changes := after.entries.filter fun entry => before.lookup? entry.1 != some entry.2
  for (place, entry) in changes do
    if entry = .directory then IO.FS.createDirAll place.path
  for (place, entry) in changes do
    if let .file text := entry then IO.FS.writeFile place.path text

/-- What is printed where the arguments ask for nothing. -/
def usage : String :=
  "usage: translate --configuration DIR --request FILE [--command TEXT] [--no-validate]\n" ++
    "       initialize --configuration DIR\n" ++
    "       print-schema\n"

/-- Runs one invocation. -/
def run (arguments : List String) : IO UInt32 := do
  match Invocation.ofArguments arguments with
  | .error .displayHelp =>
    IO.print usage
    return 0
  | .error _ =>
    IO.eprint usage
    return 2
  | .ok invocation =>
    let before ← readFiles (Program.sources invocation)
    let (result, after) := (Program.run invocation).run.run before
    writeChanges before after
    match result with
    | .error failure =>
      IO.eprintln failure.message
      return 1
    | .ok output =>
      IO.print output
      return 0

end ODataToSql.Executable

/-- The entry point of the executable. -/
def main (arguments : List String) : IO UInt32 :=
  ODataToSql.Executable.run arguments

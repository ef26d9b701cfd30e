import ODataToSql.Storage.Path

/-!
# Files

The files and directories that the program works on. A path is followed from directory to directory,
so each of those that it passes has to be there, also where a later step leaves it again.

* `read?` gives the text of a file, and `exists?` asks for a file or a directory.
* `makeDirectory` makes a directory with those that lead to it, and `write` sets the text of a file.
  Both may fail, and what was done until then stays.
-/

namespace ODataToSql

/-- What there may be at a place. -/
inductive Entry where
  | file (text : String)
  | directory
deriving DecidableEq, Repr

/-- Files and directories by their places. -/
structure Files where
  entries : List (Place × Entry)

namespace Files

/-- No files, and no directories but those that are always there. -/
def empty : Files := ⟨[]⟩

/-- What there is at a place. -/
def lookup? (files : Files) (place : Place) : Option Entry :=
  if place.isBase then some .directory
  else (files.entries.find? fun entry => entry.1 == place).map Prod.snd

/-- Puts a file or a directory at a place. -/
def put (files : Files) (place : Place) (entry : Entry) : Files :=
  ⟨(place, entry) :: files.entries.filter fun other => other.1 != place⟩

/-- What was put at a place is there, and everything else is as it was before. -/
theorem lookup?_put (files : Files) (place other : Place) (entry : Entry)
    (h : place.isBase = false) :
    (files.put place entry).lookup? other =
      if place = other then some entry else files.lookup? other := by
  by_cases heq : place = other
  · subst heq
    simp [lookup?, put, h]
  · have hfilter : (files.entries.filter fun found => found.1 != place).find?
        (fun found => found.1 == other) = files.entries.find? fun found => found.1 == other := by
      rw [List.find?_filter]
      congr 1
      funext found
      by_cases hfound : found.1 = other <;> simp [hfound, Ne.symm heq]
    simp [lookup?, put, heq, hfilter]

/-- Whether there is a directory at a place. -/
def isDirectory (files : Files) (place : Place) : Bool :=
  files.lookup? place == some .directory

/-! ## Following paths -/

/-- The place that a step leads to, if it starts in a directory and there is something. -/
def follow? (files : Files) (place : Place) (step : Path.Step) : Option Place :=
  if files.isDirectory place then
    match step with
    | .stay => some place
    | .up => some place.parent
    | .down name =>
      let next := place.child name
      if (files.lookup? next).isSome then some next else none
  else none

/-- The place that a path leads to, if there is something. -/
def locate? (files : Files) (path : String) : Option Place :=
  if path.isEmpty || !Path.isValid path then none
  else (Path.steps path).foldlM files.follow? (Path.start path)

/-- The text of a file. -/
def read? (files : Files) (path : String) : Option String := do
  match files.lookup? (← files.locate? path) with
  | some (.file text) => some text
  | _ => none

/-- Whether there is a file or a directory. -/
def exists? (files : Files) (path : String) : Bool :=
  (files.locate? path).isSome

/-! ## Changing files -/

/-- A change of the files, which may fail. What was changed before the failure stays. -/
abbrev Change (α : Type) := OptionT (StateM Files) α

/-- The number of bytes that a name may have. -/
def nameLimit : Nat := 255

/-- The place in a directory for something new. -/
def newPlace? (files : Files) (directory : Place) (name : String) : Option Place :=
  if files.isDirectory directory && name.utf8ByteSize ≤ nameLimit then some (directory.child name)
  else none

/-- Takes a step, and makes a directory where it leads to nothing. -/
def enter (place : Place) (step : Path.Step) : Change Place := do
  let files ← get
  match files.follow? place step, step with
  | some next, _ => return next
  | none, .down name =>
    let next ← OptionT.mk (pure (files.newPlace? place name))
    set (files.put next .directory)
    return next
  | none, _ => failure

/-- Takes steps one after the other, and makes a directory wherever one leads to nothing. -/
def enterAll (place : Place) : List Path.Step → Change Place
  | [] => return place
  | step :: rest => do enterAll (← enter place step) rest

/-- The steps of a path to a directory in two parts, those that may make directories and those that
may not. A dot at the end belongs to a directory that is there already. -/
def makingSteps (path : String) : List Path.Step × List Path.Step :=
  let steps := Path.steps path
  if Path.endsInDot path then
    steps.splitAt ((steps.reverse.dropWhile (· == .stay)).length - 1)
  else (steps, [])

/-- Makes a directory, if there is none, and the directories that lead to it. -/
def makeDirectory (path : String) : Change Unit := do
  guard (Path.isValid path)
  let (making, following) := makingSteps path
  let reached ← enterAll (Path.start path) making
  let files ← get
  let place ← OptionT.mk (pure (following.foldlM files.follow? reached))
  guard (files.isDirectory place)

/-- The place of the file that a path names, whether or not it is there. -/
def filePlace? (files : Files) (path : String) : Option Place := do
  guard (Path.isValid path)
  match (Path.steps path).getLast? with
  | some (.down name) =>
    let directory ← (Path.steps path).dropLast.foldlM files.follow? (Path.start path)
    let place ← files.newPlace? directory name
    guard (!files.isDirectory place)
    return place
  | _ => none

/-- Sets the text of a file in a directory that is there. -/
def write (path text : String) : Change Unit := do
  let files ← get
  let place ← OptionT.mk (pure (files.filePlace? path))
  set (files.put place (.file text))

end Files
end ODataToSql

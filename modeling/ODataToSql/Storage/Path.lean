/-!
# Paths

A path is a text with slashes between its parts. `Path.steps` says how it is followed, one directory
after the other: a name leads down, two dots lead up, and a dot or nothing stays where it is.

A `Place` is where a path may lead: the names from the working directory on, or from the root on for
the places that start with `/`. Places above the working directory start with two dots.
-/

namespace ODataToSql

/-- A place in the tree of files, by the names that lead to it. -/
abbrev Place := List String

namespace Place

/-- Whether the place is the root, the working directory or above the working directory. There is
always a directory at such a place. -/
def isBase (place : Place) : Bool :=
  place == ["/"] || place.all (· == "..")

/-- The place above. The root is above itself. -/
def parent (place : Place) : Place :=
  if place == ["/"] then place
  else if place.isBase then ".." :: place
  else place.dropLast

/-- The place of something in a directory. -/
def child (place : Place) (name : String) : Place :=
  place ++ [name]

/-- A path that leads to the place. -/
def path : Place → String
  | "/" :: names => "/" ++ "/".intercalate names
  | names => "/".intercalate names

end Place

namespace Path

/-- One step on the way that a path describes. -/
inductive Step where
  | stay
  | up
  | down (name : String)
deriving DecidableEq, Repr

/-- Puts a character in front of the first part. -/
def extendFirst (c : Char) : List (List Char) → List (List Char)
  | [] => [[c]]
  | part :: parts => (c :: part) :: parts

/-- The texts between the slashes. -/
def parts (path : String) : List (List Char) :=
  path.toList.foldr
    (fun c parts => if c = '/' then [] :: parts else extendFirst c parts) [[]]

/-- The step that a part stands for. -/
def step (part : List Char) : Step :=
  if part = [] ∨ part = ['.'] then .stay
  else if part = ['.', '.'] then .up
  else .down (String.ofList part)

/-- The steps of a path, in their order. -/
def steps (path : String) : List Step :=
  (parts path).map step

/-- Whether the path starts at the root. -/
def isAbsolute (path : String) : Bool :=
  path.toList.head? == some '/'

/-- The place where the path starts. -/
def start (path : String) : Place :=
  if isAbsolute path then ["/"] else []

/-- Whether the last part, slashes at the end aside, is a dot. -/
def endsInDot (path : String) : Bool :=
  (parts path).reverse.find? (!·.isEmpty) == some ['.']

/-- The number of bytes that a path is shorter than. -/
def sizeLimit : Nat := 4096

/-- Whether the text can be a path: it is not too long, and it has no zero character. -/
def isValid (path : String) : Bool :=
  path.utf8ByteSize < sizeLimit && !path.toList.contains '\x00'

/-- The path and the paths of all that it passes, the shortest first. -/
def leadings (path : String) : List String :=
  let leading := (List.range path.length).filterMap fun (length : Nat) =>
    if path.toList[length]? = some '/' then some (String.ofList (path.toList.take (length + 1)))
    else none
  leading ++ [path]

/-- A path inside of a directory. An absolute path stays as it is. -/
def join (directory path : String) : String :=
  if isAbsolute path then path
  else if directory.isEmpty || directory.toList.getLast? == some '/' then directory ++ path
  else directory ++ "/" ++ path

end Path
end ODataToSql

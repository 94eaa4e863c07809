/-!
# Paths

Paths are texts whose components stand between slashes.  Their text is kept as it was given: only a
question about a path looks at its components.
-/

namespace TreeScribe.Path

/-- A text between slashes. -/
abbrev Part := List Char

/-- The parts of a path, also the empty ones at its ends. -/
def parts (path : String) : List Part := path.toList.splitOn '/'

/-- The part that stands for the directory it is read in; so does an empty one. -/
def here : Part := ['.']

/-- The part that stands for the directory above. -/
def above : Part := ['.', '.']

/-- Whether a part stays where it is read. -/
def stays (p : Part) : Bool := p == [] || p == here

/-- The parts that lead somewhere. -/
def components (path : String) : List Part := (parts path).filter (!stays ·)

/-- Whether a path starts at the root. -/
def isAbsolute (path : String) : Bool := path.toList.head? == some '/'

/-- The path of a place that is given from the root. -/
def ofPlace (place : List Part) : String :=
  String.ofList (place.flatMap ('/' :: ·))

/-- The extension of the last component, behind its last dot.  A name that has only a dot in front
has none, and neither has the parent directory. -/
def extension? (path : String) : Option String := do
  let name ← (components path).getLast?
  if name = above then none
  let behind := (name.reverse.takeWhile (· != '.')).reverse
  if behind.length + 1 < name.length then some (String.ofList behind) else none

/-- A name inside a directory.  An empty directory adds nothing in front. -/
def join (dir name : String) : String :=
  if dir = "" then name
  else if dir.toList.getLast? = some '/' then dir ++ name
  else dir ++ "/" ++ name

end TreeScribe.Path

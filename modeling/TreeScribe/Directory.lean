import TreeScribe.Path

/-!
# Directories

A directory is a value: the place where it stands, and the files and directories that are there,
each under its place from the root.  The directories on the way to a place are there with it.

A path is followed part by part, from the root if it is absolute and else from the directory itself,
and every part is read in a directory.
-/

namespace TreeScribe

/-- Why a file cannot be read as text. -/
inductive FileError
  | notFound
  | notDirectory
  | isDirectory
  | notText
deriving DecidableEq, Repr

/-- The wording of a file that cannot be read. -/
def FileError.message : FileError → String
  | .notFound => "No such file or directory (os error 2)"
  | .notDirectory => "Not a directory (os error 20)"
  | .isDirectory => "Is a directory (os error 21)"
  | .notText => "stream did not contain valid UTF-8"

namespace Directory

/-- Where something stands: the parts of its path from the root. -/
abbrev Place := List Path.Part

/-- What stands at a place. -/
inductive Entry
  | file (bytes : ByteArray)
  | directory

/-- Whether an entry is a directory. -/
def Entry.isDirectory : Entry → Bool
  | .file _ => false
  | .directory => true

end Directory

/-- A place and all that can be reached from it. -/
structure Directory where
  place : Directory.Place
  entries : List (Directory.Place × Directory.Entry)

namespace Directory

/-- A directory at `place` with entries under paths of its own. -/
def ofPaths (place : Place) (entries : List (String × Entry)) : Directory :=
  ⟨place, entries.map fun (path, e) => (place ++ Path.components path, e)⟩

/-- What stands at a place. -/
def entry? (d : Directory) (place : Place) : Option Entry :=
  match d.entries.lookup place with
  | some e => some e
  | none =>
    if place.isPrefixOf d.place || d.entries.any fun (p, _) => place.isPrefixOf p then
      some .directory
    else none

/-- Where a part leads from a place, whether or not something stands there. -/
def target (place : Place) (part : Path.Part) : Place :=
  if Path.stays part then place
  else if part = Path.above then place.dropLast
  else place ++ [part]

/-- Follows the parts of a path from a place. -/
def follow (d : Directory) (place : Place) : List Path.Part → Except FileError Place
  | [] => .ok place
  | part :: parts =>
    if ((d.entry? place).map Entry.isDirectory).getD false then
      if (d.entry? (target place part)).isSome then follow d (target place part) parts
      else .error .notFound
    else .error .notDirectory

/-- Where a path starts. -/
def startOf (d : Directory) (path : String) : Place := if Path.isAbsolute path then [] else d.place

/-- The place that a path leads to.  The empty path leads nowhere. -/
def locate (d : Directory) (path : String) : Except FileError Place :=
  if path = "" then .error .notFound else d.follow (d.startOf path) (Path.parts path)

/-- The text of the file under a path. -/
def read (d : Directory) (path : String) : Except FileError String := do
  match d.entry? (← d.locate path) with
  | some (.file bytes) =>
    match String.fromUTF8? bytes with
    | some text => return text
    | none => throw .notText
  | _ => throw .isDirectory

/-- Whether a file stands under a path. -/
def isFile (d : Directory) (path : String) : Bool :=
  match d.locate path with
  | .ok place =>
    match d.entry? place with
    | some (.file _) => true
    | _ => false
  | .error _ => false

/-- The places that following parts of a path looks at. -/
def passed (place : Place) : List Path.Part → List Place
  | [] => [place]
  | part :: parts => place :: passed (target place part) parts

end Directory

end TreeScribe

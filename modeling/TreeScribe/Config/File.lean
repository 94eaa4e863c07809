import TreeScribe.Config.Reader
import TreeScribe.Directory
import TreeScribe.Traced

/-!
# Configuration files

A directory is configured by the first of two files that is there.
-/

namespace TreeScribe.Config

/-- The names of configuration files, in the order they are looked for. -/
def fileNames : List String := [".tsxlate.jsonc", ".tsxlate.json"]

/-- The path of the configuration file in `dir`. -/
def discover? (d : Directory) (dir : String) : Option String :=
  (fileNames.map (Path.join dir)).find? d.isFile

/-- Reads the configuration file under a path.  The event is reported once the file is read,
whatever its text says. -/
def load (d : Directory) (path : String) : Traced Config :=
  match d.read path with
  | .error e => .fail (.config (ConfigError.unreadable path e.message).message)
  | .ok text => do
    .report (.configLoaded path)
    .ofExcept ((ofText text.toList).mapError fun e => .config e.message)

end TreeScribe.Config
